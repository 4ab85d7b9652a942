import SmartMetWfs.Foundation.Tokens

/-!
# Normal spacing around a mark

A text with one mark is brought to a normal spacing: blanks at the ends of its two parts
are dropped, and the parts are joined by a glue. Texts without a mark or with several stay
as they are. Texts may be spelled in several ways: letters can be folded, and there may be
any blanks around a mark. Which spelling is used does not show in the folded normal form.
-/

namespace SmartMetWfs.Foundation

variable {α : Type} {isBlank : α → Bool}

/-! ### Trimming and blanks -/

/-- Blanks that follow are trimmed off. -/
theorem trim_append_of_all {after : List α} (all : ∀ item ∈ after, isBlank item = true)
    (text : List α) : trim isBlank (text ++ after) = trim isBlank text := by
  unfold trim
  rw [List.dropWhile_append]
  split
  · next empty =>
      rw [List.isEmpty_iff.mp empty, List.rdropWhile_nil]
      have dropped : after.dropWhile isBlank = [] := List.dropWhile_eq_nil_iff.mpr all
      rw [dropped, List.rdropWhile_nil]
  · exact rdropWhile_append_of_all all

/-- Blanks that come first are trimmed off. -/
theorem trim_of_all_append {before : List α} (all : ∀ item ∈ before, isBlank item = true)
    (text : List α) : trim isBlank (before ++ text) = trim isBlank text := by
  rw [trim, List.dropWhile_append_of_pos all, trim]

/-- A change that makes no blanks can be made before the trimming. -/
theorem trim_map {fold : α → α} (keeps : ∀ item, isBlank (fold item) = isBlank item)
    (text : List α) : trim isBlank (text.map fold) = (trim isBlank text).map fold := by
  have same : isBlank ∘ fold = isBlank := funext keeps
  unfold trim List.rdropWhile
  rw [List.dropWhile_map, same, ← List.map_reverse, List.dropWhile_map, same, List.map_reverse]

/-- Only blanks are trimmed off. -/
theorem filter_trim (text : List α) :
    (trim isBlank text).filter (fun item => !isBlank item) =
      text.filter fun item => !isBlank item := by
  obtain ⟨before, after, split, allBefore, allAfter⟩ := trim_spec isBlank text
  have none : ∀ {blanks : List α}, (∀ item ∈ blanks, isBlank item = true) →
      blanks.filter (fun item => !isBlank item) = [] := by
    intro blanks all
    refine List.filter_eq_nil_iff.mpr fun item inside => ?_
    rw [all item inside]
    exact Bool.false_ne_true
  conv_rhs => rw [split, List.filter_append, List.filter_append, none allBefore, none allAfter,
    List.nil_append, List.append_nil]

/-- Texts that are equal when folded, and equal but for blanks, are equal where folding
does not touch blanks. -/
theorem eq_of_map_of_filter {fold : α → α} (keeps : ∀ item, isBlank (fold item) = isBlank item)
    (fixed : ∀ item, isBlank item = true → fold item = item) {text text' : List α}
    (folded : text.map fold = text'.map fold)
    (bare : text.filter (fun item => !isBlank item) = text'.filter fun item => !isBlank item) :
    text = text' := by
  induction text generalizing text' with
  | nil => exact (List.map_eq_nil_iff.mp folded.symm).symm
  | cons item text ih =>
      cases text' with
      | nil => cases folded
      | cons item' text' =>
          rw [List.map_cons, List.map_cons] at folded
          obtain ⟨first, rest⟩ := List.cons.inj folded
          have kind : isBlank item = isBlank item' := by rw [← keeps, first, keeps]
          cases blank : isBlank item with
          | true =>
              have blank' := kind ▸ blank
              rw [fixed item blank, fixed item' blank'] at first
              rw [List.filter_cons_of_neg (by rw [blank]; exact Bool.false_ne_true),
                List.filter_cons_of_neg (by rw [blank']; exact Bool.false_ne_true)] at bare
              rw [first, ih rest bare]
          | false =>
              have blank' := kind ▸ blank
              rw [List.filter_cons_of_pos (by rw [blank]; rfl),
                List.filter_cons_of_pos (by rw [blank']; rfl)] at bare
              obtain ⟨same, bareRest⟩ := List.cons.inj bare
              rw [same, ih rest bareRest]

/-! ### The normal spacing -/

variable [DecidableEq α] {mark : α} {glue : List α}

/-- Two parts around the only mark are trimmed and glued, other texts stay. -/
def respace (isBlank : α → Bool) (mark : α) (glue text : List α) : List α :=
  match text.splitOnP fun item => item = mark with
  | [first, second] => trim isBlank first ++ glue ++ trim isBlank second
  | _ => text

/-- A text without the mark is one part. -/
theorem splitOnP_of_notMem {text : List α} (absent : mark ∉ text) :
    text.splitOnP (fun item => item = mark) = [text] := by
  refine List.splitOnP_eq_singleton fun item inside => decide_eq_false fun same => ?_
  exact absent (same ▸ inside)

/-- The two parts around a mark. -/
theorem respace_pair {first second : List α} (inFirst : mark ∉ first) (inSecond : mark ∉ second) :
    respace isBlank mark glue (first ++ mark :: second) =
      trim isBlank first ++ glue ++ trim isBlank second := by
  have split : (first ++ mark :: second).splitOnP (fun item => item = mark) = [first, second] := by
    rw [List.splitOnP_append_cons first second (decide_eq_true rfl), splitOnP_of_notMem inFirst,
      splitOnP_of_notMem inSecond]
    rfl
  rw [respace, split]

/-- A mark that occurs once has two parts around it. -/
theorem exists_pair_of_count {text : List α} (count : text.count mark = 1) :
    ∃ first second, text = first ++ mark :: second ∧ mark ∉ first ∧ mark ∉ second := by
  have inside : mark ∈ text := List.count_pos_iff.mp (by omega)
  obtain ⟨first, second, split, absent⟩ := List.eq_append_cons_of_mem inside
  refine ⟨first, second, split, absent, fun again => ?_⟩
  rw [split, List.count_append, List.count_cons_self, List.count_eq_zero_of_not_mem absent] at count
  have := List.count_pos_iff.mpr again
  omega

/-- Unless the mark occurs once the text stays. -/
theorem respace_of_count {text : List α} (count : text.count mark ≠ 1) :
    respace isBlank mark glue text = text := by
  unfold respace
  split
  · next first second split =>
      exfalso
      by_cases inside : mark ∈ text
      · obtain ⟨before, after, rfl, absent⟩ := List.eq_append_cons_of_mem inside
        rw [List.splitOnP_append_cons before after (decide_eq_true rfl),
          splitOnP_of_notMem absent] at split
        have rest : after.splitOnP (fun item => decide (item = mark)) = [second] :=
          (List.cons.inj split).2
        by_cases again : mark ∈ after
        · obtain ⟨middle, last, rfl, _⟩ := List.eq_append_cons_of_mem again
          rw [List.splitOnP_append_cons middle last (decide_eq_true rfl)] at rest
          have nonempty : ∀ part : List α,
              0 < (part.splitOnP fun item => decide (item = mark)).length :=
            fun part => List.length_pos_of_ne_nil (List.splitOnP_ne_nil _ part)
          have parts := congrArg List.length rest
          rw [List.length_append, List.length_singleton] at parts
          have inMiddle := nonempty middle
          have inLast := nonempty last
          omega
        · rw [List.count_append, List.count_cons_self, List.count_eq_zero_of_not_mem absent,
            List.count_eq_zero_of_not_mem again] at count
          exact count rfl
      · rw [splitOnP_of_notMem inside] at split
        cases split
  · rfl

/-- What the normal spacing of a text is. -/
theorem respace_cases (isBlank : α → Bool) (mark : α) (glue text : List α) :
    (∃ first second, text = first ++ mark :: second ∧ mark ∉ first ∧ mark ∉ second ∧
        respace isBlank mark glue text = trim isBlank first ++ glue ++ trim isBlank second) ∨
      (text.count mark ≠ 1 ∧ respace isBlank mark glue text = text) := by
  by_cases count : text.count mark = 1
  · obtain ⟨first, second, rfl, inFirst, inSecond⟩ := exists_pair_of_count count
    exact .inl ⟨first, second, rfl, inFirst, inSecond, respace_pair inFirst inSecond⟩
  · exact .inr ⟨count, respace_of_count count⟩

/-- Only blanks come and go. -/
theorem filter_respace (seen : isBlank mark = false)
    (bareGlue : glue.filter (fun item => !isBlank item) = [mark]) (text : List α) :
    (respace isBlank mark glue text).filter (fun item => !isBlank item) =
      text.filter fun item => !isBlank item := by
  rcases respace_cases isBlank mark glue text with ⟨first, second, rfl, _, _, spaced⟩ | ⟨_, same⟩
  · rw [spaced, List.filter_append, List.filter_append, filter_trim, filter_trim, bareGlue,
      List.filter_append, List.filter_cons_of_pos (by rw [seen]; rfl), List.append_assoc]
    rfl
  · rw [same]

section Folding

variable {fold : α → α} (keeps : ∀ item, isBlank (fold item) = isBlank item)
  (onlyMark : ∀ item, fold item = mark ↔ item = mark)

include onlyMark

/-- A change that keeps the mark keeps its number. -/
theorem count_map (text : List α) : (text.map fold).count mark = text.count mark := by
  rw [List.count, List.countP_map]
  refine List.countP_congr fun item _ => ?_
  rw [Function.comp_apply, beq_iff_eq, beq_iff_eq]
  exact onlyMark item

include keeps

/-- Folding and spacing do not disturb each other. -/
theorem respace_map (foldedGlue : glue.map fold = glue) (text : List α) :
    respace isBlank mark glue (text.map fold) = (respace isBlank mark glue text).map fold := by
  have notMem : ∀ {part : List α}, mark ∉ part → mark ∉ part.map fold := by
    intro part absent inside
    obtain ⟨item, member, isMark⟩ := List.mem_map.mp inside
    exact absent ((onlyMark item).mp isMark ▸ member)
  rcases respace_cases isBlank mark glue text with
    ⟨first, second, rfl, inFirst, inSecond, spaced⟩ | ⟨count, same⟩
  · rw [spaced, List.map_append, List.map_cons, (onlyMark mark).mpr rfl,
      respace_pair (notMem inFirst) (notMem inSecond), trim_map keeps, trim_map keeps,
      List.map_append, List.map_append, foldedGlue]
  · rw [same, respace_of_count]
    rwa [count_map onlyMark]

end Folding

/-! ### Spellings -/

/-- Texts that differ only in what folding hides and in the blanks around marks. -/
inductive Respelled (fold : α → α) (isBlank : α → Bool) (mark : α) : List α → List α → Prop
  | folding {text text' : List α} (same : text.map fold = text'.map fold) :
      Respelled fold isBlank mark text text'
  | spacing (before after : List α) {left right left' right' : List α}
      (blanks : ∀ item ∈ left ++ right ++ (left' ++ right'), isBlank item = true) :
      Respelled fold isBlank mark (before ++ left ++ mark :: (right ++ after))
        (before ++ left' ++ mark :: (right' ++ after))
  | trans {text text' text'' : List α} (first : Respelled fold isBlank mark text text')
      (second : Respelled fold isBlank mark text' text'') : Respelled fold isBlank mark text text''

/-- The spellings of a text with at most one mark have one folded normal form. -/
theorem Respelled.respace_eq {fold : α → α} (keeps : ∀ item, isBlank (fold item) = isBlank item)
    (onlyMark : ∀ item, fold item = mark ↔ item = mark) (seen : isBlank mark = false)
    (foldedGlue : glue.map fold = glue) {text text' : List α}
    (respelled : Respelled fold isBlank mark text text') :
    text.count mark ≤ 1 → text'.count mark = text.count mark ∧
      (respace isBlank mark glue text').map fold = (respace isBlank mark glue text).map fold := by
  induction respelled with
  | folding same =>
      refine fun _ => ⟨?_, ?_⟩
      · rw [← count_map onlyMark, ← same, count_map onlyMark]
      · rw [← respace_map keeps onlyMark foldedGlue, ← same, respace_map keeps onlyMark foldedGlue]
  | trans first second ihFirst ihSecond =>
      intro count
      obtain ⟨count', same⟩ := ihFirst count
      obtain ⟨count'', same'⟩ := ihSecond (by omega)
      exact ⟨count''.trans count', same'.trans same⟩
  | spacing before after blanks =>
      next left right left' right' =>
      intro count
      have blank : ∀ {part : List α}, (∀ item ∈ part, isBlank item = true) →
          part.count mark = 0 := by
        intro part all
        refine List.count_eq_zero_of_not_mem fun inside => ?_
        rw [all mark inside] at seen
        cases seen
      simp only [List.forall_mem_append] at blanks
      obtain ⟨⟨allLeft, allRight⟩, allLeft', allRight'⟩ := blanks
      simp only [List.count_append, List.count_cons_self, blank allLeft, blank allRight,
        blank allLeft', blank allRight'] at count ⊢
      have absent : ∀ {part : List α}, part.count mark = 0 → mark ∉ part := List.count_eq_zero.mp
      refine ⟨trivial, ?_⟩
      rw [respace_pair, respace_pair, trim_append_of_all allLeft, trim_append_of_all allLeft',
        trim_of_all_append allRight, trim_of_all_append allRight']
      · apply absent
        rw [List.count_append, blank allLeft]
        omega
      · apply absent
        rw [List.count_append, blank allRight]
        omega
      · apply absent
        rw [List.count_append, blank allLeft']
        omega
      · apply absent
        rw [List.count_append, blank allRight']
        omega

end SmartMetWfs.Foundation
