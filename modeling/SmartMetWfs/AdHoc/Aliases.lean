import SmartMetWfs.AdHoc.AdHocQuery
import SmartMetWfs.Foundation.Replacement

/-!
# Type aliases in filter expressions

A request may give its feature types short names, which then stand in the paths of the
filter expressions. `replace_aliases` takes the aliases one after the other and replaces
each of them where a slash follows it. The expression is cut at its slashes here; a part
has steps and the bytes of all other text. The steps are replaced all at once, and nothing
else is, when the aliases that stand before a slash are whole steps, all steps that are
aliases have a slash behind them, and no type name ends in another alias.
-/

namespace SmartMetWfs.AdHoc

open Foundation

variable {ν : Type}

/-- Replace an alias by its type name; an empty alias is passed over. -/
def replaceAlias (expression : ByteString) (pair : ByteString × ByteString) : ByteString :=
  if pair.1 = [] then expression
  else replaceAll (pair.1 ++ ascii "/") (pair.2 ++ ascii "/") expression

/-- `replace_aliases`. -/
def replaceAliases (aliases typeNames : List ByteString) (queries : List (AdHocQuery ν)) :
    Except ByteString (List (AdHocQuery ν)) :=
  if aliases = [] then .ok queries
  else if aliases.length ≠ typeNames.length then
    .error (ascii "The number of aliases does not match the number of type names.")
  else .ok (queries.map fun query =>
    if query.filterExpression = [] then query
    else
      { query with
        filterExpression := (aliases.zip typeNames).foldl replaceAlias query.filterExpression })

/-! ### Steps -/

/-- A step of a path, or a byte of other text. -/
inductive Piece
  | step (name : ByteString) (nonempty : name ≠ []) (whole : 47 ∉ name)
  | byte (value : UInt8) (notSlash : value ≠ 47)

/-- A piece with its name replaced. -/
def Piece.text (rename : ByteString → ByteString) : Piece → ByteString
  | step name _ _ => rename name
  | byte value _ => [value]

/-- The pieces of a part with their names replaced. -/
def partText (rename : ByteString → ByteString) (part : List Piece) : ByteString :=
  part.flatMap (Piece.text rename)

/-- An expression that has been cut at its slashes. -/
structure PathExpression where
  parts : List (List Piece)
  last : List Piece

namespace PathExpression

/-- The text of the expression with other names for its steps. -/
def renamed (rename : ByteString → ByteString) (expression : PathExpression) : ByteString :=
  (expression.parts.flatMap fun part => partText rename part ++ [47]) ++
    partText rename expression.last

/-- The expression as it stands. -/
def text (expression : PathExpression) : ByteString := expression.renamed id

end PathExpression

/-- The type name of an alias; other names stay. -/
def newName (table : List (ByteString × ByteString)) (name : ByteString) : ByteString :=
  match table.find? fun pair => pair.1 = name with
  | some pair => pair.2
  | none => name

/-- The aliases of a table that stand for another name. -/
def aliasNames (table : List (ByteString × ByteString)) : List ByteString :=
  (table.filter fun pair => pair.1 ≠ [] ∧ pair.2 ≠ pair.1).map Prod.fst

/-- In every order in which some of the aliases are taken, their steps have the type names
afterwards, all of them at once, and nothing else has changed. -/
def ReplacedAtOnce (table : List (ByteString × ByteString)) (expression : PathExpression) : Prop :=
  ∀ done, done.Subperm table → ∀ order : List (ByteString × ByteString), order.Perm done →
    order.foldl replaceAlias expression.text = expression.renamed (newName done)

/-- Where a slash follows, only whole steps end in aliases; other steps are no aliases; no
step has two type names; and what is put in for an alias ends in no other one. -/
structure WholeSteps (table : List (ByteString × ByteString)) (expression : PathExpression) :
    Prop where
  slashed : ∀ done word typeName, (done ++ [(word, typeName)]).Subperm table → typeName ≠ word →
    47 ∈ word → ¬word ++ [47] <:+: expression.renamed (newName done)
  last : ∀ name nonempty whole, .step name nonempty whole ∈ expression.last →
    name ∉ aliasNames table
  inner : ∀ part ∈ expression.parts, ∀ before name nonempty whole next after,
    part = before ++ .step name nonempty whole :: next :: after → name ∉ aliasNames table
  suffix : ∀ part ∈ expression.parts, ∀ name ∈ aliasNames table, name <:+ partText id part →
    ∃ before nonempty whole, part = before ++ [.step name nonempty whole]
  single : ∀ part ∈ expression.parts, ∀ before name nonempty whole,
    part = before ++ [.step name nonempty whole] → ∀ first second,
      (name, first) ∈ table → (name, second) ∈ table → first = second
  inert : ∀ part ∈ expression.parts, ∀ before name nonempty whole,
    part = before ++ [.step name nonempty whole] → ∀ typeName other otherType,
      List.Subperm [(name, typeName), (other, otherType)] table → other ≠ [] → otherType ≠ other →
        ¬other ++ [47] <:+: partText id before ++ (typeName ++ [47])

/-! ### Names -/

section

variable {table done : List (ByteString × ByteString)} {pair : ByteString × ByteString}
  {name : ByteString}

/-- The aliases are the names that mean another type. -/
theorem mem_aliasNames :
    name ∈ aliasNames table ↔ name ≠ [] ∧ ∃ typeName, (name, typeName) ∈ table ∧
      typeName ≠ name := by
  rw [aliasNames, List.mem_map]
  constructor
  · rintro ⟨⟨_, typeName⟩, member, rfl⟩
    obtain ⟨inTable, kept⟩ := List.mem_filter.mp member
    obtain ⟨nonempty, other⟩ := of_decide_eq_true kept
    exact ⟨nonempty, typeName, inTable, other⟩
  · rintro ⟨nonempty, typeName, member, other⟩
    exact ⟨(name, typeName), List.mem_filter.mpr ⟨member, decide_eq_true ⟨nonempty, other⟩⟩, rfl⟩

/-- A name stays or is replaced by one of its type names. -/
theorem newName_cases (table : List (ByteString × ByteString)) (name : ByteString) :
    newName table name = name ∨ (name, newName table name) ∈ table := by
  unfold newName
  split
  · next pair found =>
      obtain rfl : pair.1 = name := of_decide_eq_true (List.find?_some found :)
      exact .inr (List.mem_of_find?_eq_some found)
  · exact .inl rfl

/-- What is no alias keeps its name. -/
theorem newName_of_notMem (nonempty : name ≠ []) (other : name ∉ aliasNames table) :
    newName table name = name := by
  rcases newName_cases table name with same | member
  · exact same
  · by_contra different
    exact other (mem_aliasNames.mpr ⟨nonempty, _, member, different⟩)

/-- What has not been renamed yet keeps its name. -/
theorem newName_of_notMem_map (fresh : name ∉ done.map Prod.fst) : newName done name = name := by
  rcases newName_cases done name with same | member
  · exact same
  · exact absurd (List.mem_map_of_mem member) fresh

/-- The first renaming of a name is the one that counts. -/
theorem newName_append_of_notMem (fresh : name ∉ done.map Prod.fst) :
    newName (done ++ table) name = newName table name := by
  have none : done.find? (fun pair => decide (pair.1 = name)) = none :=
    List.find?_eq_none.mpr fun pair member same =>
      fresh (of_decide_eq_true same ▸ List.mem_map_of_mem member)
  unfold newName
  rw [List.find?_append, none, Option.none_or]

/-- An alias that has been found is not looked for among those behind it. -/
theorem newName_append_of_mem (found : name ∈ done.map Prod.fst) :
    (name, newName done name) ∈ done ∧ newName (done ++ table) name = newName done name := by
  obtain ⟨pair, member, isName⟩ := List.mem_map.mp found
  have some : (done.find? fun pair => pair.1 = name).isSome :=
    List.find?_isSome.mpr ⟨pair, member, decide_eq_true isName⟩
  obtain ⟨first, isFirst⟩ := Option.isSome_iff_exists.mp some
  obtain rfl : first.1 = name := of_decide_eq_true (List.find?_some isFirst :)
  unfold newName
  rw [List.find?_append, isFirst]
  exact ⟨List.mem_of_find?_eq_some isFirst, rfl⟩

/-- The renamed name is the type's. -/
theorem newName_cons_self : newName (pair :: done) pair.1 = pair.2 := by
  have found : (pair :: done).find? (fun earlier => decide (earlier.1 = pair.1)) = some pair :=
    List.find?_cons_of_pos (decide_eq_true rfl)
  unfold newName
  rw [found]

theorem newName_singleton_of_ne (other : pair.1 ≠ name) : newName [pair] name = name :=
  newName_of_notMem_map fun member => other (List.mem_singleton.mp member).symm

theorem newName_concat_of_ne (other : pair.1 ≠ name) :
    newName (done ++ [pair]) name = newName done name := by
  by_cases found : name ∈ done.map Prod.fst
  · exact (newName_append_of_mem found).2
  · rw [newName_append_of_notMem found, newName_of_notMem_map found, newName_singleton_of_ne other]

/-- An alias for itself changes nothing. -/
theorem newName_concat_self (same : pair.2 = pair.1) (name : ByteString) :
    newName (done ++ [pair]) name = newName done name := by
  by_cases isPair : pair.1 = name
  · subst isPair
    by_cases found : pair.1 ∈ done.map Prod.fst
    · exact (newName_append_of_mem found).2
    · rw [newName_append_of_notMem found, newName_of_notMem_map found, newName_cons_self, same]
  · exact newName_concat_of_ne isPair

/-- The type name of an alias that has only one does not depend on the order. -/
theorem newName_perm {order : List (ByteString × ByteString)} (perm : order.Perm done)
    (single : ∀ first second, (name, first) ∈ done → (name, second) ∈ done → first = second) :
    newName order name = newName done name := by
  by_cases found : name ∈ done.map Prod.fst
  · have foundInOrder : name ∈ order.map Prod.fst := (perm.map Prod.fst).mem_iff.mpr found
    have inOrder := (@newName_append_of_mem [] _ _ foundInOrder).1
    have inDone := (@newName_append_of_mem [] _ _ found).1
    exact single _ _ (perm.mem_iff.mp inOrder) inDone
  · have notFound : name ∉ order.map Prod.fst := fun inOrder =>
      found ((perm.map Prod.fst).mem_iff.mp inOrder)
    rw [newName_of_notMem_map found, newName_of_notMem_map notFound]

end

/-! ### Parts -/

section

variable {table done : List (ByteString × ByteString)}

/-- A step alone is its name. -/
theorem partText_step (rename : ByteString → ByteString) {name : ByteString} (nonempty : name ≠ [])
    (whole : 47 ∉ name) : partText rename [.step name nonempty whole] = rename name :=
  List.flatMap_singleton _ _

theorem partText_append (rename : ByteString → ByteString) (first second : List Piece) :
    partText rename (first ++ second) = partText rename first ++ partText rename second :=
  List.flatMap_append

theorem partText_congr {rename rename' : ByteString → ByteString} {part : List Piece}
    (same : ∀ name nonempty whole, .step name nonempty whole ∈ part → rename name = rename' name) :
    partText rename part = partText rename' part := by
  refine List.flatMap_congr fun piece member => ?_
  cases piece with
  | step name nonempty whole => exact same name nonempty whole member
  | byte value notSlash => rfl

theorem PathExpression.renamed_congr (expression : PathExpression)
    {rename rename' : ByteString → ByteString}
    (same : ∀ part ∈ expression.parts, partText rename part = partText rename' part)
    (sameLast : partText rename expression.last = partText rename' expression.last) :
    expression.renamed rename = expression.renamed rename' := by
  have sameParts : ∀ part ∈ expression.parts,
      partText rename part ++ [47] = partText rename' part ++ [47] := fun part member =>
    congrArg (· ++ [47]) (same part member)
  rw [renamed, renamed, sameLast, List.flatMap_congr sameParts]

/-- Only names that steps can have count. -/
theorem PathExpression.renamed_congr_names (expression : PathExpression)
    {rename rename' : ByteString → ByteString}
    (same : ∀ name, name ≠ [] → 47 ∉ name → rename name = rename' name) :
    expression.renamed rename = expression.renamed rename' :=
  expression.renamed_congr
    (fun _ _ => partText_congr fun name nonempty whole _ => same name nonempty whole)
    (partText_congr fun name nonempty whole _ => same name nonempty whole)

/-- No part has a slash in it. -/
theorem slash_notMem_partText (part : List Piece) : 47 ∉ partText id part := by
  intro member
  obtain ⟨piece, _, inText⟩ := List.mem_flatMap.mp member
  cases piece with
  | step name nonempty whole => exact whole inText
  | byte value notSlash => exact notSlash (List.mem_singleton.mp inText).symm

theorem aliasNames_mono (fewer : ∀ pair ∈ done, pair ∈ table) {name : ByteString}
    (member : name ∈ aliasNames done) : name ∈ aliasNames table := by
  obtain ⟨nonempty, typeName, inDone, other⟩ := mem_aliasNames.mp member
  exact mem_aliasNames.mpr ⟨nonempty, typeName, fewer _ inDone, other⟩

/-- A part without aliases keeps its text. -/
theorem partText_plain (fewer : ∀ pair ∈ done, pair ∈ table) {part : List Piece}
    (plain : ∀ name nonempty whole, .step name nonempty whole ∈ part → name ∉ aliasNames table) :
    partText (newName done) part = partText id part :=
  partText_congr fun name nonempty whole member => newName_of_notMem nonempty fun inDone =>
    plain name nonempty whole member (aliasNames_mono fewer inDone)

namespace WholeSteps

variable {expression : PathExpression}

/-- A step that is not the last of its part is no alias. -/
theorem inner_plain (wholeSteps : WholeSteps table expression) {part before : List Piece}
    {piece : Piece} (member : part ∈ expression.parts) (split : part = before ++ [piece]) :
    ∀ name nonempty whole, .step name nonempty whole ∈ before → name ∉ aliasNames table := by
  intro name nonempty whole inBefore
  obtain ⟨first, rest, rfl⟩ := List.append_of_mem inBefore
  obtain ⟨next, after, more⟩ := List.exists_cons_of_ne_nil (List.concat_ne_nil piece rest)
  refine wholeSteps.inner part member first name nonempty whole next after ?_
  rw [split, List.append_assoc, List.cons_append, more]

/-- A part that does not end in the alias as a step does not end in it at all. -/
theorem not_suffix (wholeSteps : WholeSteps table expression) {part : List Piece}
    (member : part ∈ expression.parts) {word : ByteString} (isAlias : word ∈ aliasNames table)
    (other : ∀ before nonempty whole, part ≠ before ++ [.step word nonempty whole]) :
    ¬word <:+ partText id part := by
  intro suffix
  obtain ⟨before, nonempty, whole, split⟩ := wholeSteps.suffix part member word isAlias suffix
  exact other before nonempty whole split

/-- An alias is replaced where a part ends in it, and nothing else changes. -/
theorem part_replaced (wholeSteps : WholeSteps table expression) {word typeName : ByteString}
    (some : (done ++ [(word, typeName)]).Subperm table) (nonempty : word ≠ [])
    (other : typeName ≠ word)
    (clean : 47 ∉ word) {part : List Piece} (member : part ∈ expression.parts) :
    replaceAll (word ++ [47]) (typeName ++ [47]) (partText (newName done) part ++ [47]) =
      partText (newName (done ++ [(word, typeName)])) part ++ [47] := by
  have fewer : ∀ pair ∈ done ++ [(word, typeName)], pair ∈ table := fun _ inSome =>
      some.subset inSome
  have fewerDone : ∀ pair ∈ done, pair ∈ table := fun pair inDone =>
    fewer pair (List.mem_append_left _ inDone)
  have isAlias : word ∈ aliasNames table := mem_aliasNames.mpr
    ⟨nonempty, typeName, fewer _ (List.mem_append_right _ List.mem_cons_self), other⟩
  -- Without the alias at its end the part stays, whether or not it has an alias that is done.
  rcases List.eq_nil_or_concat' part with rfl | ⟨before, piece, split⟩
  · have absent := wholeSteps.not_suffix member isAlias fun before _ _ same =>
      List.concat_ne_nil _ before same.symm
    exact replaceAll_stretch_of_not_suffix (slash_notMem_partText []) absent
  · have plain := wholeSteps.inner_plain member split
    have leads := partText_plain fewerDone plain
    have leadsAfter := partText_plain fewer plain
    rw [split, partText_append, partText_append, leads, leadsAfter]
    cases piece with
    | byte value notSlash =>
        have absent := wholeSteps.not_suffix member isAlias fun before' _ _ same => by
          rw [split] at same
          cases (List.append_inj' same rfl).2
        rw [split, partText_append] at absent
        have cleanPart := slash_notMem_partText (before ++ [.byte value notSlash])
        rw [partText_append] at cleanPart
        exact replaceAll_stretch_of_not_suffix cleanPart absent
    | step name nonemptyName whole =>
        rw [partText_step, partText_step]
        by_cases found : name ∈ done.map Prod.fst
        · obtain ⟨inDone, same⟩ := newName_append_of_mem found
          have both : List.Subperm [(name, newName done name), (word, typeName)] table :=
            ((List.singleton_sublist.mpr inDone).append_right _).subperm.trans some
          have inert := wholeSteps.inert part member before name nonemptyName whole split _ word _
            both nonempty other
          rw [same, List.append_assoc, replaceAll_of_absent inert]
        · rw [newName_append_of_notMem found, newName_of_notMem_map found]
          by_cases same : name = word
          · subst same
            rw [newName_cons_self, replaceAll_word clean (slash_notMem_partText before),
              List.append_assoc]
          · rw [newName_singleton_of_ne (Ne.symm same)]
            have absent := wholeSteps.not_suffix member isAlias fun before' _ _ same' => by
              rw [split] at same'
              cases (List.append_inj' same' rfl).2
              exact same rfl
            have cleanPart := slash_notMem_partText (before ++ [.step name nonemptyName whole])
            rw [split, partText_append, partText_step] at absent
            rw [partText_append, partText_step] at cleanPart
            exact replaceAll_stretch_of_not_suffix cleanPart absent

/-- An alias at the end of a part is replaced by its type. -/
theorem last_replaced (wholeSteps : WholeSteps table expression) {word typeName : ByteString}
    (fewer : ∀ earlier ∈ done ++ [(word, typeName)], earlier ∈ table) :
    replaceAll (word ++ [47]) (typeName ++ [47]) (partText (newName done) expression.last) =
      partText (newName (done ++ [(word, typeName)])) expression.last := by
  have fewerDone : ∀ earlier ∈ done, earlier ∈ table := fun earlier inDone =>
    fewer earlier (List.mem_append_left _ inDone)
  rw [partText_plain fewerDone wholeSteps.last, partText_plain fewer wholeSteps.last]
  apply replaceAll_of_absent
  intro found
  exact slash_notMem_partText expression.last
    (found.subset (List.mem_append_right word List.mem_cons_self))

/-- To replace one more alias is to rename its steps. -/
theorem replaceAlias_renamed (wholeSteps : WholeSteps table expression)
    {pair : ByteString × ByteString} (some : (done ++ [pair]).Subperm table) :
    replaceAlias (expression.renamed (newName done)) pair =
      expression.renamed (newName (done ++ [pair])) := by
  obtain ⟨word, typeName⟩ := pair
  unfold replaceAlias
  split
  · next empty =>
      refine expression.renamed_congr_names fun name nonempty _ => ?_
      exact (newName_concat_of_ne fun same => nonempty (same.symm.trans empty)).symm
  · next nonempty =>
      change replaceAll (word ++ [47]) (typeName ++ [47]) _ = _
      by_cases other : typeName = word
      · rw [other, replaceAll_self (List.concat_ne_nil 47 word)]
        exact expression.renamed_congr_names fun name _ _ => (newName_concat_self rfl name).symm
      · by_cases slash : 47 ∈ word
        · rw [replaceAll_of_absent (wholeSteps.slashed done word typeName some other slash)]
          refine expression.renamed_congr_names fun name _ whole => ?_
          have notWord : word ≠ name := fun same => whole (same ▸ slash)
          exact (newName_concat_of_ne notWord).symm
        · have replaced : ∀ part ∈ expression.parts,
              replaceAll (word ++ [47]) (typeName ++ [47])
                  (partText (newName done) part ++ [47]) =
                partText (newName (done ++ [(word, typeName)])) part ++ [47] := fun part inParts =>
            wholeSteps.part_replaced some nonempty other slash inParts
          rw [PathExpression.renamed, replaceAll_stretches slash,
            wholeSteps.last_replaced fun _ inSome => some.subset inSome,
              List.flatMap_congr replaced]
          rfl

/-- To replace the aliases one by one is to rename all steps at once. -/
theorem foldl_replaceAlias (wholeSteps : WholeSteps table expression)
    {order : List (ByteString × ByteString)} (some : order.Subperm table) :
    order.foldl replaceAlias expression.text = expression.renamed (newName order) := by
  have general : ∀ rest done, done ++ rest = order →
      rest.foldl replaceAlias (expression.renamed (newName done)) =
        expression.renamed (newName order) := by
    intro rest
    induction rest with
    | nil =>
        rintro done rfl
        rw [List.append_nil]
        rfl
    | cons pair rest ih =>
        intro done split
        have split' : (done ++ [pair]) ++ rest = order := by
          rw [List.append_assoc]
          exact split
        have part : (done ++ [pair]).Subperm order :=
          split' ▸ (List.sublist_append_left _ rest).subperm
        rw [List.foldl_cons, wholeSteps.replaceAlias_renamed (part.trans some)]
        exact ih (done ++ [pair]) split'
  exact general order [] rfl

/-- The order does not matter. -/
theorem renamed_perm (wholeSteps : WholeSteps table expression)
    {order : List (ByteString × ByteString)} (some : done.Subperm table) (perm : order.Perm done) :
    expression.renamed (newName order) = expression.renamed (newName done) := by
  have fewer : ∀ pair ∈ done, pair ∈ table := fun _ inDone => some.subset inDone
  have fewerOrder : ∀ pair ∈ order, pair ∈ table := fun _ inOrder =>
    fewer _ (perm.mem_iff.mp inOrder)
  apply expression.renamed_congr
  · intro part member
    rcases List.eq_nil_or_concat' part with rfl | ⟨before, piece, split⟩
    · rfl
    · have plain := wholeSteps.inner_plain member split
      rw [split, partText_append, partText_append, partText_plain fewerOrder plain,
        partText_plain fewer plain]
      cases piece with
      | byte value notSlash => rfl
      | step name nonempty whole =>
          have single := wholeSteps.single part member before name nonempty whole split
          rw [partText_step, partText_step, newName_perm perm fun first second inDone inDone' =>
            single first second (fewer _ inDone) (fewer _ inDone')]
  · rw [partText_plain fewerOrder wholeSteps.last, partText_plain fewer wholeSteps.last]

/-- With whole steps all aliases are replaced at once. -/
theorem replacedAtOnce (wholeSteps : WholeSteps table expression) :
    ReplacedAtOnce table expression := by
  intro done some order perm
  rw [wholeSteps.foldl_replaceAlias (perm.subperm.trans some), wholeSteps.renamed_perm some perm]

end WholeSteps

end

/-! ### All queries -/

/-- Nothing is replaced in an empty expression. -/
theorem foldl_replaceAlias_nil (table : List (ByteString × ByteString)) :
    table.foldl replaceAlias [] = [] := by
  induction table with
  | nil => rfl
  | cons pair table ih =>
      have stays : replaceAlias [] pair = [] := by
        rw [replaceAlias, replaceAll_nil, ite_self]
      rw [List.foldl_cons, stays, ih]

/-- In an accepted request every filter expression goes through all aliases. -/
theorem replaceAliases_ok {aliases typeNames : List ByteString}
    {queries replaced : List (AdHocQuery ν)}
    (accepted : replaceAliases aliases typeNames queries = .ok replaced) :
    replaced = queries.map fun query =>
      { query with
        filterExpression :=
          (aliases.zip typeNames).foldl replaceAlias query.filterExpression } := by
  unfold replaceAliases at accepted
  split at accepted
  · next none =>
      cases accepted
      rw [none]
      exact (List.map_id _).symm
  · split at accepted
    · cases accepted
    · cases accepted
      refine List.map_congr_left fun query _ => ?_
      split
      · next none => rw [none, foldl_replaceAlias_nil, ← none]
      · rfl

end SmartMetWfs.AdHoc
