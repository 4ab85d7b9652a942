import SmartMetWfs.AdHoc.Aliases

/-!
# When aliases are replaced at once

The aliases of a filter expression are replaced at once, in every order, exactly when they
stand as whole steps before slashes. The expression is cut as XPath cuts it: a step ends
where the bytes of its name do, so that two ways to name its steps give one text only if
they agree. A text that is right after one alias then tells where this alias stood, and a
text that is right after two of them that neither ends what has been put in for the other.
-/

namespace SmartMetWfs.AdHoc

open Foundation

variable {ν : Type}

/-- The bytes of names: letters, digits, `-`, `.`, `_`, the colon behind a namespace prefix
and the bytes of characters beyond ASCII. -/
def isStepByte (byte : UInt8) : Bool :=
  isAsciiLetter byte || decide (48 ≤ byte ∧ byte ≤ 57) || decide (byte ∈ ascii "-._:") ||
    decide (128 ≤ byte)

/-- All bytes of the name can stand in a step. -/
def IsStepName (name : ByteString) : Prop := ∀ byte ∈ name, isStepByte byte = true

instance (name : ByteString) : Decidable (IsStepName name) :=
  inferInstanceAs (Decidable (∀ byte ∈ name, isStepByte byte = true))

/-- Steps have names, and no byte of a name follows them. -/
def CutAtNames (part : List Piece) : Prop :=
  ∀ before name nonempty whole after, part = before ++ .step name nonempty whole :: after →
    IsStepName name ∧ ∀ next ∈ after.head?,
      ∃ value notSlash, next = .byte value notSlash ∧ isStepByte value = false

/-- Every part is cut at the names of its steps. -/
def PathExpression.AtNames (expression : PathExpression) : Prop :=
  (∀ part ∈ expression.parts, CutAtNames part) ∧ CutAtNames expression.last

/-! ### Parts and their texts -/

section

variable {rename rename' : ByteString → ByteString} {part : List Piece}
  {done : List (ByteString × ByteString)}

/-- There is no slash in the name of a step. -/
theorem IsStepName.slash_notMem {name : ByteString} (isName : IsStepName name) : 47 ∉ name :=
  fun member => absurd (isName 47 member) (by decide)

/-- The steps of a part get names. -/
def NamesSteps (rename : ByteString → ByteString) (part : List Piece) : Prop :=
  ∀ name nonempty whole, .step name nonempty whole ∈ part → IsStepName (rename name)

/-- There is no slash in a part whose steps have names. -/
theorem NamesSteps.slash_notMem (names : NamesSteps rename part) : 47 ∉ partText rename part := by
  intro member
  obtain ⟨piece, inPart, inText⟩ := List.mem_flatMap.mp member
  cases piece with
  | step name nonempty whole => exact (names name nonempty whole inPart).slash_notMem inText
  | byte value notSlash => exact notSlash (List.mem_singleton.mp inText).symm

namespace CutAtNames

/-- The rest of a part is cut at names, too. -/
theorem tail {piece : Piece} (cut : CutAtNames (piece :: part)) : CutAtNames part := by
  intro before name nonempty whole after split
  exact cut (piece :: before) name nonempty whole after (by rw [split]; rfl)

theorem of_append {rest : List Piece} (cut : CutAtNames (part ++ rest)) : CutAtNames part := by
  intro before name nonempty whole after split
  obtain ⟨isName, ends⟩ := cut before name nonempty whole (after ++ rest) (by
    rw [split, List.append_assoc, List.cons_append])
  exact ⟨isName, fun next first => ends next (List.mem_head?_append_of_mem_head? first)⟩

/-- The steps keep names when they are renamed to types. -/
theorem namesSteps (cut : CutAtNames part) (typeNames : ∀ pair ∈ done, IsStepName pair.2) :
    NamesSteps (newName done) part := by
  intro name nonempty whole member
  obtain ⟨before, after, split⟩ := List.append_of_mem member
  rcases newName_cases done name with same | inDone
  · rw [same]
    exact (cut before name nonempty whole after split).1
  · exact typeNames _ inDone

end CutAtNames

/-- The text behind a step does not go on with its name. -/
theorem partText_stops {after : List Piece} {tail : ByteString}
    (ends : ∀ next ∈ after.head?,
      ∃ value notSlash, next = .byte value notSlash ∧ isStepByte value = false)
    (stops : ∀ byte ∈ tail.head?, isStepByte byte = false) :
    ∀ byte ∈ (partText rename after ++ tail).head?, isStepByte byte = false := by
  cases after with
  | nil => exact stops
  | cons next after =>
      obtain ⟨value, notSlash, rfl, notName⟩ := ends next rfl
      rintro byte ⟨⟩
      exact notName

/-- Two ways to name the steps agree if they give one text. -/
theorem partText_injective (cut : CutAtNames part) (names : NamesSteps rename part)
    (names' : NamesSteps rename' part) {tail tail' : ByteString}
    (stops : ∀ byte ∈ tail.head?, isStepByte byte = false)
    (stops' : ∀ byte ∈ tail'.head?, isStepByte byte = false)
    (same : partText rename part ++ tail = partText rename' part ++ tail') :
    ∀ name nonempty whole, .step name nonempty whole ∈ part → rename name = rename' name := by
  induction part with
  | nil => exact fun _ _ _ member => (List.not_mem_nil member).elim
  | cons piece part ih =>
      have inRest : ∀ name nonempty whole, .step name nonempty whole ∈ part →
          .step name nonempty whole ∈ piece :: part := fun _ _ _ => List.mem_cons_of_mem piece
      have apart : ∀ rename : ByteString → ByteString,
          partText rename (piece :: part) = piece.text rename ++ partText rename part := fun _ =>
        List.flatMap_cons
      rw [apart, apart, List.append_assoc, List.append_assoc] at same
      have first : (∀ name nonempty whole, piece = .step name nonempty whole →
          rename name = rename' name) ∧
          partText rename part ++ tail = partText rename' part ++ tail' := by
        cases piece with
        | byte value notSlash =>
            refine ⟨?_, List.append_cancel_left same⟩
            rintro _ _ _ ⟨⟩
        | step name nonempty whole =>
            obtain ⟨_, ends⟩ := cut [] name nonempty whole part rfl
            obtain ⟨sameName, sameRest⟩ := word_unique
              (names name nonempty whole List.mem_cons_self)
              (names' name nonempty whole List.mem_cons_self)
              (partText_stops ends stops) (partText_stops ends stops') same
            refine ⟨?_, sameRest⟩
            rintro _ _ _ ⟨⟩
            exact sameName
      intro name nonempty whole member
      rcases List.mem_cons.mp member with isFirst | inPart
      · exact first.1 name nonempty whole isFirst.symm
      · exact ih cut.tail (fun name nonempty whole inPart =>
          names _ _ _ (inRest name nonempty whole inPart))
          (fun name nonempty whole inPart =>
            names' _ _ _ (inRest name nonempty whole inPart)) first.2
          name nonempty whole inPart

/-- Where an alias that is a step gives the text that was there, its type name is the alias. -/
theorem typeName_of_same {word typeName : ByteString} (isName : IsStepName typeName)
    (cut : CutAtNames part) {tail tail' : ByteString}
    (stops : ∀ byte ∈ tail.head?, isStepByte byte = false)
    (stops' : ∀ byte ∈ tail'.head?, isStepByte byte = false)
    (same : partText id part ++ tail = partText (newName [(word, typeName)]) part ++ tail')
    {nonempty : word ≠ []} {whole : 47 ∉ word} (member : .step word nonempty whole ∈ part) :
    typeName = word := by
  have pairNames : ∀ pair ∈ [(word, typeName)], IsStepName pair.2 := fun pair isPair =>
    List.mem_singleton.mp isPair ▸ isName
  have names : NamesSteps (newName [(word, typeName)]) part := cut.namesSteps pairNames
  have plainNames : NamesSteps id part := @CutAtNames.namesSteps part [] cut nofun
  have sameName :=
    partText_injective cut plainNames names stops stops' same word nonempty whole member
  exact (sameName.trans newName_cons_self).symm

/-- The end of a text stops every step. -/
theorem nil_stops : ∀ byte ∈ ([] : ByteString).head?, isStepByte byte = false := nofun

end

/-! ### Texts that are right -/

namespace ReplacedAtOnce

section

variable {table done : List (ByteString × ByteString)} {expression : PathExpression}
  {word typeName : ByteString} {part : List Piece}

/-- After one more alias the text is right again. -/
theorem pass (atOnce : ReplacedAtOnce table expression) {pair : ByteString × ByteString}
    (some : (done ++ [pair]).Subperm table) :
    replaceAlias (expression.renamed (newName done)) pair =
      expression.renamed (newName (done ++ [pair])) := by
  have doneSome : done.Subperm table := (List.sublist_append_left done [pair]).subperm.trans some
  have before := atOnce done doneSome done (.refl done)
  have after := atOnce (done ++ [pair]) some (done ++ [pair]) (.refl _)
  rw [List.foldl_append, before] at after
  exact after

/-- A word with a slash is nowhere in the expression. -/
theorem slashed (atOnce : ReplacedAtOnce table expression)
    (some : (done ++ [(word, typeName)]).Subperm table) (other : typeName ≠ word)
    (slash : 47 ∈ word) : ¬word ++ [47] <:+: expression.renamed (newName done) := by
  have pass := atOnce.pass some
  have unchanged : expression.renamed (newName (done ++ [(word, typeName)])) =
      expression.renamed (newName done) :=
    expression.renamed_congr_names fun name _ whole => by
      have notWord : word ≠ name := fun same => whole (same ▸ slash)
      exact newName_concat_of_ne notWord
  rw [replaceAlias, if_neg (List.ne_nil_of_mem slash), unchanged] at pass
  exact not_infix_of_replaceAll_eq (List.concat_ne_nil 47 word)
    (fun same => other (List.append_cancel_right same)) pass

/-- After one more alias each part is right. -/
theorem pass_parts (atOnce : ReplacedAtOnce table expression) (atNames : expression.AtNames)
    (typeNames : ∀ pair ∈ table, IsStepName pair.2)
    (some : (done ++ [(word, typeName)]).Subperm table) (nonempty : word ≠ []) (clean : 47 ∉ word) :
    (∀ part ∈ expression.parts, replaceEnd word typeName (partText (newName done) part) =
      partText (newName (done ++ [(word, typeName)])) part) ∧
    partText (newName done) expression.last =
      partText (newName (done ++ [(word, typeName)])) expression.last := by
  have afterNames : ∀ pair ∈ done ++ [(word, typeName)], IsStepName pair.2 := fun pair member =>
    typeNames pair (some.subset member)
  have doneNames : ∀ pair ∈ done, IsStepName pair.2 := fun pair member =>
    afterNames pair (List.mem_append_left _ member)
  have typeClean : 47 ∉ typeName :=
    (afterNames _ (List.mem_append_right done List.mem_cons_self)).slash_notMem
  have doneClean : ∀ part, CutAtNames part → 47 ∉ partText (newName done) part := fun part cut =>
    (cut.namesSteps doneNames).slash_notMem
  have ends : ∀ part ∈ expression.parts,
      replaceAll (word ++ [47]) (typeName ++ [47]) (partText (newName done) part ++ [47]) =
        replaceEnd word typeName (partText (newName done) part) ++ [47] := fun part member =>
    replaceAll_concat clean (doneClean part (atNames.1 part member))
  have noSlash : ¬word ++ [47] <:+: partText (newName done) expression.last := fun found =>
    doneClean _ atNames.2 (found.subset (List.mem_append_right word List.mem_cons_self))
  have pass := atOnce.pass some
  rw [replaceAlias, if_neg nonempty] at pass
  change replaceAll (word ++ [47]) (typeName ++ [47]) _ = _ at pass
  rw [PathExpression.renamed, replaceAll_stretches clean, List.flatMap_congr ends,
    replaceAll_of_absent noSlash] at pass
  exact stretches_injective
    (fun part member => notMem_replaceEnd (doneClean part (atNames.1 part member)) typeClean)
    (fun part member => ((atNames.1 part member).namesSteps afterNames).slash_notMem) pass

end

/-! ### Conditions that follow -/

section

variable {table : List (ByteString × ByteString)} {expression : PathExpression}
  (atOnce : ReplacedAtOnce table expression) (atNames : expression.AtNames)
  (typeNames : ∀ pair ∈ table, IsStepName pair.2)

include atOnce atNames typeNames

/-- An alias on its own has replaced its steps. -/
theorem alone {word typeName : ByteString} (inTable : (word, typeName) ∈ table)
    (nonempty : word ≠ [])
    (clean : 47 ∉ word) :
    (∀ part ∈ expression.parts, replaceEnd word typeName (partText id part) =
      partText (newName [(word, typeName)]) part) ∧
    partText id expression.last = partText (newName [(word, typeName)]) expression.last :=
  @pass_parts table [] expression word typeName atOnce atNames typeNames
    (List.singleton_subperm_iff.mpr inTable) nonempty clean

/-- A step that is an alias is the last one of its part. -/
theorem not_inner {word typeName : ByteString} (inTable : (word, typeName) ∈ table)
    (other : typeName ≠ word) {part : List Piece} (member : part ∈ expression.parts)
    {before after : List Piece} {nonempty : word ≠ []} {whole : 47 ∉ word} {next : Piece}
    (split : part = before ++ .step word nonempty whole :: next :: after) : False := by
  have ended := (atOnce.alone atNames typeNames inTable nonempty whole).1 part member
  have cut := atNames.1 part member
  obtain ⟨isName, ends⟩ := cut before word nonempty whole (next :: after) split
  by_cases suffix : word <:+ partText id part
  · obtain ⟨value, notSlash, rfl, notName⟩ := ends next rfl
    obtain ⟨lead, text⟩ := suffix
    rw [← text, replaceEnd_append] at ended
    have split' :
        part = (before ++ [.step word nonempty whole]) ++ .byte value notSlash :: after := by
      rw [split, List.append_assoc, List.singleton_append]
    have cutLead : CutAtNames (before ++ [.step word nonempty whole]) := (split' ▸ cut).of_append
    have apart : ∀ rename : ByteString → ByteString, partText rename part =
        partText rename (before ++ [.step word nonempty whole]) ++
          value :: partText rename after := by
      intro rename
      rw [split', partText_append]
      rfl
    rw [apart] at text ended
    -- The byte behind the step is in no name, hence before the alias that ends the part.
    obtain ⟨middle, leadSplit⟩ : ∃ middle,
        lead = partText id (before ++ [.step word nonempty whole]) ++ value :: middle := by
      rcases List.append_eq_append_iff.mp text with ⟨more, _, inWord⟩ | ⟨more, leadSplit, rest⟩
      · have inName : value ∈ word := inWord ▸ List.mem_append_right more List.mem_cons_self
        exact absurd (isName value inName) (Bool.eq_false_iff.mp notName)
      · rcases List.cons_eq_append_iff.mp rest with ⟨_, isWord⟩ | ⟨middle, isMore, _⟩
        · have inName : value ∈ word := isWord ▸ List.mem_cons_self
          exact absurd (isName value inName) (Bool.eq_false_iff.mp notName)
        · exact ⟨middle, isMore ▸ leadSplit⟩
    rw [leadSplit, List.append_assoc] at ended
    have stops : ∀ rest : ByteString, ∀ byte ∈ (value :: rest).head?, isStepByte byte = false := by
      rintro rest byte ⟨⟩
      exact notName
    exact other (typeName_of_same (typeNames _ inTable) cutLead (stops _) (stops _) ended
      (List.mem_append_right before List.mem_cons_self))
  · rw [replaceEnd_of_not_suffix suffix] at ended
    have inPart : .step word nonempty whole ∈ part :=
      split ▸ List.mem_append_right before List.mem_cons_self
    exact other (typeName_of_same (typeNames _ inTable) cut nil_stops nil_stops
      (congrArg (· ++ []) ended) inPart)

/-- A part that ends in an alias ends in it as a step. -/
theorem suffix {word typeName : ByteString} (inTable : (word, typeName) ∈ table)
    (nonempty : word ≠ [])
    (other : typeName ≠ word) {part : List Piece} (member : part ∈ expression.parts)
    (ends : word <:+ partText id part) :
    ∃ before nonempty whole, part = before ++ [.step word nonempty whole] := by
  have clean : 47 ∉ word := fun slash => slash_notMem_partText part (ends.subset slash)
  by_cases inPart : .step word nonempty clean ∈ part
  · obtain ⟨before, after, split⟩ := List.append_of_mem inPart
    cases after with
    | nil => exact ⟨before, nonempty, clean, split⟩
    | cons next after =>
        exact (atOnce.not_inner atNames typeNames inTable other member split).elim
  · exfalso
    have ended := (atOnce.alone atNames typeNames inTable nonempty clean).1 part member
    have unchanged : partText (newName [(word, typeName)]) part = partText id part :=
      partText_congr fun name nonempty whole isStep => by
        have notWord : word ≠ name := by
          rintro rfl
          exact inPart isStep
        exact newName_singleton_of_ne notWord
    obtain ⟨lead, text⟩ := ends
    rw [unchanged, ← text, replaceEnd_append] at ended
    exact other (List.append_cancel_left ended)

/-- The steps before the end of a part keep their names. -/
theorem before_plain {part before : List Piece} {piece : Piece} (member : part ∈ expression.parts)
    (split : part = before ++ [piece]) {done : List (ByteString × ByteString)}
    (fewer : ∀ pair ∈ done, pair ∈ table) :
      partText (newName done) before = partText id before := by
  refine partText_congr fun name nonempty whole inBefore => ?_
  rcases newName_cases done name with same | inDone
  · exact same
  · by_contra other
    obtain ⟨first, rest, rfl⟩ := List.append_of_mem inBefore
    obtain ⟨next, after, more⟩ := List.exists_cons_of_ne_nil (List.concat_ne_nil piece rest)
    have splitPart : part = first ++ .step name nonempty whole :: next :: after := by
      rw [split, List.append_assoc, List.cons_append, more]
    exact atOnce.not_inner atNames typeNames (fewer _ inDone) other member splitPart

/-- A step that is renamed is the only one of its part. -/
theorem single {part before : List Piece} (member : part ∈ expression.parts) {name : ByteString}
    {nonempty : name ≠ []} {whole : 47 ∉ name}
    (split : part = before ++ [.step name nonempty whole])
    {first second : ByteString} (isFirst : (name, first) ∈ table)
    (isSecond : (name, second) ∈ table) :
    first = second := by
  by_contra different
  have both : List.Subperm [(name, first), (name, second)] table :=
    List.subperm_of_subset (by simpa using different) (by simp [isFirst, isSecond])
  have swapped : List.Perm [(name, second), (name, first)] [(name, first), (name, second)] :=
    List.Perm.swap _ _ _
  have inOrder := atOnce _ both _ swapped
  rw [atOnce _ (swapped.subperm.trans both) _ (.refl _)] at inOrder
  have cut := atNames.1 part member
  have names : ∀ done : List (ByteString × ByteString), (∀ pair ∈ done, pair ∈ table) →
      ∀ part ∈ expression.parts, NamesSteps (newName done) part := fun done fewer part member =>
    (atNames.1 part member).namesSteps fun pair inDone => typeNames pair (fewer pair inDone)
  have swappedNames := names _ fun _ inSwapped => both.subset (swapped.mem_iff.mp inSwapped)
  have bothNames := names _ fun _ inBoth => both.subset inBoth
  obtain ⟨sameParts, -⟩ := stretches_injective
    (fun part member => (swappedNames part member).slash_notMem)
    (fun part member => (bothNames part member).slash_notMem) inOrder
  have sameName := partText_injective cut (swappedNames part member) (bothNames part member)
    nil_stops nil_stops (congrArg (· ++ []) (sameParts part member)) name nonempty whole
    (split ▸ List.mem_append_right before List.mem_cons_self)
  rw [newName_cons_self, newName_cons_self] at sameName
  exact different sameName.symm

/-- A later renaming does not touch a step that has been renamed. -/
theorem inert {part before : List Piece} (member : part ∈ expression.parts) {name : ByteString}
    {nonempty : name ≠ []} {whole : 47 ∉ name}
    (split : part = before ++ [.step name nonempty whole])
    {typeName other otherType : ByteString}
    (both : List.Subperm [(name, typeName), (other, otherType)] table) (some : other ≠ [])
    (different : otherType ≠ other) :
    ¬other ++ [47] <:+: partText id before ++ (typeName ++ [47]) := by
  intro found
  have fewer : ∀ pair ∈ [(name, typeName), (other, otherType)], pair ∈ table := fun _ inBoth =>
    both.subset inBoth
  have typeClean : 47 ∉ typeName := (typeNames _ (fewer _ List.mem_cons_self)).slash_notMem
  have clean : 47 ∉ partText id before ++ typeName := by
    rw [List.mem_append, not_or]
    exact ⟨slash_notMem_partText before, typeClean⟩
  rw [← List.append_assoc] at found
  have ends := suffix_of_infix_concat clean found
  have otherClean : 47 ∉ other := fun slash => clean (ends.subset slash)
  have text : ∀ done : List (ByteString × ByteString),
      (∀ pair ∈ (name, typeName) :: done, pair ∈ table) →
        partText (newName ((name, typeName) :: done)) part = partText id before ++ typeName := by
    intro done fewer
    rw [split, partText_append, partText_step, newName_cons_self,
      atOnce.before_plain atNames typeNames member split fewer]
  have ended := (@pass_parts table [(name, typeName)] expression other otherType atOnce atNames
    typeNames both some otherClean).1 part member
  have afterBoth : partText (newName ([(name, typeName)] ++ [(other, otherType)])) part =
      partText id before ++ typeName := text [(other, otherType)] fewer
  rw [afterBoth, text [] fun pair inFirst => fewer pair (List.mem_append_left _ inFirst)] at ended
  obtain ⟨lead, isLead⟩ := ends
  rw [← isLead, replaceEnd_append] at ended
  exact different (List.append_cancel_left ended)

/-- What is replaced at once is replaced in whole steps. -/
theorem wholeSteps : WholeSteps table expression where
  slashed done word typeName := atOnce.slashed
  last name nonempty whole inLast isAlias := by
    obtain ⟨_, typeName, inTable, other⟩ := mem_aliasNames.mp isAlias
    have same := (atOnce.alone atNames typeNames inTable nonempty whole).2
    exact other (typeName_of_same (typeNames _ inTable) atNames.2 nil_stops nil_stops
      (congrArg (· ++ []) same) inLast)
  inner part member before name nonempty whole next after split isAlias := by
    obtain ⟨_, typeName, inTable, other⟩ := mem_aliasNames.mp isAlias
    exact atOnce.not_inner atNames typeNames inTable other member split
  suffix part member name isAlias ends := by
    obtain ⟨nonempty, typeName, inTable, other⟩ := mem_aliasNames.mp isAlias
    exact atOnce.suffix atNames typeNames inTable nonempty other member ends
  single part member before name nonempty whole split first second :=
    atOnce.single atNames typeNames member split
  inert part member before name nonempty whole split typeName other otherType :=
    atOnce.inert atNames typeNames member split

end

end ReplacedAtOnce

/-! ### All queries -/

/-- The filter expression has the type names for the aliases, and the aliases of the table
are replaced at once in every order and after each of them. -/
def Simultaneous (table : List (ByteString × ByteString)) (expression : PathExpression)
    (query query' : AdHocQuery ν) : Prop :=
  query' = { query with filterExpression := expression.renamed (newName table) } ∧
    ReplacedAtOnce table expression

/-- The aliases are replaced at once where they stand as whole steps before slashes, and,
if the expression is cut at its names and the type names are names, only there. -/
theorem replaceAliases_simultaneous {aliases typeNames : List ByteString}
    {queries replaced : List (AdHocQuery ν)}
    (accepted : replaceAliases aliases typeNames queries = .ok replaced) :
    List.Forall₂ (fun query query' => ∀ expression : PathExpression,
      query.filterExpression = expression.text →
        (WholeSteps (aliases.zip typeNames) expression →
          Simultaneous (aliases.zip typeNames) expression query query') ∧
        (expression.AtNames → (∀ typeName ∈ typeNames, IsStepName typeName) →
          Simultaneous (aliases.zip typeNames) expression query query' →
            WholeSteps (aliases.zip typeNames) expression))
      queries replaced := by
  rw [replaceAliases_ok accepted, List.forall₂_map_right_iff, List.forall₂_same]
  intro query _ expression isText
  constructor
  · intro wholeSteps
    have result := wholeSteps.foldl_replaceAlias (.refl _)
    refine ⟨?_, wholeSteps.replacedAtOnce⟩
    rw [isText, result]
  · intro atNames names simultaneous
    refine simultaneous.2.wholeSteps atNames fun pair member => ?_
    exact names pair.2 (List.of_mem_zip member).2

/-- The name of an alias before a slash. -/
def aliasPath : PathExpression :=
  ⟨[[.step (ascii "a") (by decide) (by decide)]], [.step (ascii "name") (by decide) (by decide)]⟩

/-- The path has its alias as a whole step. -/
theorem aliasPath_wholeSteps : WholeSteps [(ascii "a", ascii "avi:Message")] aliasPath := by
  have isName :
      ∀ name ∈ aliasNames [(ascii "a", ascii "avi:Message")], name = ascii "a" := by decide
  constructor
  · intro done word typeName some _ slash
    have inTable := some.subset (List.mem_append_right done List.mem_cons_self)
    cases List.mem_singleton.mp inTable
    exact absurd slash (by decide)
  · intro name nonempty whole member isAlias
    cases List.mem_singleton.mp member
    exact absurd (isName _ isAlias) (by decide)
  · intro part member before name nonempty whole next after split
    cases List.mem_singleton.mp member
    have length := congrArg List.length split
    simp at length
    omega
  · intro part member name isAlias _
    cases List.mem_singleton.mp member
    cases isName name isAlias
    exact ⟨[], by decide, by decide, rfl⟩
  · intro part _ before name nonempty whole _ first second isFirst isSecond
    cases List.mem_singleton.mp isFirst
    cases List.mem_singleton.mp isSecond
    rfl
  · intro part _ before name nonempty whole _ typeName other otherType both
    exact absurd both.length_le (by decide : ¬2 ≤ 1)

/-- Its alias is replaced in every query. -/
theorem aliasPath_simultaneous :
    List.Forall₂ (fun query query' => ∀ expression : PathExpression,
      query.filterExpression = expression.text →
        (WholeSteps [(ascii "a", ascii "avi:Message")] expression →
          Simultaneous [(ascii "a", ascii "avi:Message")] expression query query') ∧
        (expression.AtNames → (∀ typeName ∈ [ascii "avi:Message"], IsStepName typeName) →
          Simultaneous [(ascii "a", ascii "avi:Message")] expression query query' →
            WholeSteps [(ascii "a", ascii "avi:Message")] expression))
      [(⟨0, .empty false, aliasPath.text, []⟩ : AdHocQuery Nat)]
      [⟨0, .empty false, ascii "avi:Message/name", []⟩] ∧
    aliasPath.text = ascii "a/name" ∧ WholeSteps [(ascii "a", ascii "avi:Message")] aliasPath :=
  ⟨@replaceAliases_simultaneous Nat [ascii "a"] [ascii "avi:Message"] _ _ rfl, by decide,
    aliasPath_wholeSteps⟩

/-- A step that ends in the alias. -/
def areaPath : PathExpression :=
  ⟨[[.step (ascii "area") (by decide) (by decide)]], [.step (ascii "name") (by decide) (by decide)]⟩

/-- The end of another step is replaced, although no step is the alias. -/
theorem areaPath_changed :
    replaceAliases [ascii "a"] [ascii "avi:Message"]
        [(⟨0, .empty false, areaPath.text, []⟩ : AdHocQuery Nat)] =
      .ok [⟨0, .empty false, ascii "areavi:Message/name", []⟩] ∧
    areaPath.renamed (newName [(ascii "a", ascii "avi:Message")]) = areaPath.text ∧
    areaPath.text = ascii "area/name" :=
  ⟨rfl, by decide, by decide⟩

end SmartMetWfs.AdHoc
