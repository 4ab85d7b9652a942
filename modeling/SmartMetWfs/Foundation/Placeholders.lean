import Mathlib.Data.List.Infix
import Mathlib.Tactic.Common

/-!
# Placeholders between delimiters

A placeholder is a word without delimiters that is put between two of them. A text is read
from the left as a sequence of pieces, placeholders and single letters, and each placeholder
is given a value. If the values are free of the delimiter, a placeholder of the result lies
between two delimiters that have been kept, and comes about in no other way than that the
pieces between them spell its word.
-/

namespace SmartMetWfs.Foundation

variable {α ν : Type}

/-- A letter that stays, or a name that is replaced. -/
inductive Piece (α ν : Type)
  | kept (letter : α)
  | placeholder (name : ν)

/-- The placeholder with the given word. -/
def delimited (delimiter : α) (word : List α) : List α := delimiter :: (word ++ [delimiter])

/-- A piece as it is in the text. -/
def Piece.spell (delimiter : α) (word : ν → List α) : Piece α ν → List α
  | .kept letter => [letter]
  | .placeholder name => delimited delimiter (word name)

/-- A piece with the value of a placeholder put in. -/
def Piece.render (value : ν → List α) : Piece α ν → List α
  | .kept letter => [letter]
  | .placeholder name => value name

/-- The text is read as these pieces: wherever a placeholder begins it is taken whole. -/
inductive ReadsAs (delimiter : α) (word : ν → List α) : List α → List (Piece α ν) → Prop
  | nil : ReadsAs delimiter word [] []
  | placeholder (name : ν) {rest : List α} {pieces : List (Piece α ν)}
      (reads : ReadsAs delimiter word rest pieces) :
      ReadsAs delimiter word (delimited delimiter (word name) ++ rest) (.placeholder name :: pieces)
  | kept {letter : α} {rest : List α} {pieces : List (Piece α ν)}
      (none : ∀ name, ¬delimited delimiter (word name) <+: letter :: rest)
      (reads : ReadsAs delimiter word rest pieces) :
      ReadsAs delimiter word (letter :: rest) (.kept letter :: pieces)

/-- Between two kept delimiters there are placeholders, and no other delimiter is kept; with
the values put in, the pieces between them spell the word of a placeholder. -/
def Joins (delimiter : α) (word value : ν → List α) (pieces : List (Piece α ν)) : Prop :=
  ∃ before between after name, pieces =
      before ++ .kept delimiter :: (between ++ .kept delimiter :: after) ∧
    .kept delimiter ∉ between ∧ (∃ inner, .placeholder inner ∈ between) ∧
    between.flatMap (Piece.render value) = word name

variable {delimiter : α} {word value : ν → List α}

/-! ### Reading -/

/-- Every text has pieces it is read as. -/
theorem exists_readsAs (delimiter : α) (word : ν → List α) (text : List α) :
    ∃ pieces, ReadsAs delimiter word text pieces := by
  induction size : text.length using Nat.strong_induction_on generalizing text with
  | _ length ih =>
  by_cases found : ∃ name, delimited delimiter (word name) <+: text
  · obtain ⟨name, rest, rfl⟩ := found
    have shorter : rest.length < length := by
      rw [← size, List.length_append, delimited, List.length_cons]
      omega
    obtain ⟨pieces, reads⟩ := ih rest.length shorter rest rfl
    exact ⟨_, .placeholder name reads⟩
  · cases text with
    | nil => exact ⟨[], .nil⟩
    | cons letter rest =>
        have shorter : rest.length < length := by
          rw [← size]
          exact Nat.lt_succ_self _
        obtain ⟨pieces, reads⟩ := ih rest.length shorter rest rfl
        exact ⟨_, .kept (fun name begins => found ⟨name, begins⟩) reads⟩

/-- The pieces are spelt as the text. -/
theorem ReadsAs.spell {text : List α} {pieces : List (Piece α ν)}
    (reads : ReadsAs delimiter word text pieces) :
    pieces.flatMap (Piece.spell delimiter word) = text := by
  induction reads with
  | nil => rfl
  | placeholder name _ ih => rw [List.flatMap_cons, ih, Piece.spell]
  | kept _ _ ih => rw [List.flatMap_cons, ih, Piece.spell, List.singleton_append]

/-- What comes after some pieces is read as the pieces after them. -/
theorem ReadsAs.suffix {text : List α} {before after : List (Piece α ν)}
    (reads : ReadsAs delimiter word text (before ++ after)) :
    ReadsAs delimiter word (after.flatMap (Piece.spell delimiter word)) after := by
  induction before generalizing text with
  | nil =>
      have same := reads.spell
      rw [List.nil_append] at same reads
      rwa [same]
  | cons piece before ih =>
      cases reads with
      | placeholder _ reads => exact ih reads
      | kept _ reads => exact ih reads

/-- No placeholder begins where a letter is kept. -/
theorem ReadsAs.not_prefix {text : List α} {letter : α} {pieces : List (Piece α ν)}
    (reads : ReadsAs delimiter word text (.kept letter :: pieces)) (name : ν) :
    ¬delimited delimiter (word name) <+: text := by
  cases reads with
  | kept none _ => exact none name

/-- Where all is kept nothing changes. -/
theorem render_eq_spell (delimiter : α) (word value : ν → List α) {pieces : List (Piece α ν)}
    (all : ∀ name, .placeholder name ∉ pieces) :
    pieces.flatMap (Piece.render value) = pieces.flatMap (Piece.spell delimiter word) := by
  induction pieces with
  | nil => rfl
  | cons piece pieces ih =>
      have rest := ih fun name inside => all name (List.mem_cons_of_mem _ inside)
      cases piece with
      | placeholder name => exact absurd (List.mem_cons_self ..) (all name)
      | kept letter => rw [List.flatMap_cons, List.flatMap_cons, rest]; rfl

/-- A text in which no placeholder is read has none. -/
theorem ReadsAs.not_infix {text : List α} {pieces : List (Piece α ν)}
    (reads : ReadsAs delimiter word text pieces) (all : ∀ name, .placeholder name ∉ pieces)
    (name : ν) : ¬delimited delimiter (word name) <:+: text := by
  induction reads with
  | nil =>
      intro found
      cases List.infix_nil.mp found
  | placeholder name _ _ => exact absurd (List.mem_cons_self ..) (all name)
  | kept none _ ih =>
      rw [List.infix_cons_iff, not_or]
      exact ⟨none name, ih fun other inside => all other (List.mem_cons_of_mem _ inside)⟩

/-- A text without placeholders is kept. -/
theorem ReadsAs.all_kept {text : List α} {pieces : List (Piece α ν)}
    (reads : ReadsAs delimiter word text pieces)
    (absent : ∀ name, ¬delimited delimiter (word name) <:+: text) (name : ν) :
    .placeholder name ∉ pieces := by
  intro inside
  obtain ⟨before, after, split⟩ := List.append_of_mem inside
  have text_eq := reads.spell
  rw [split, List.flatMap_append, List.flatMap_cons] at text_eq
  refine absent name ⟨before.flatMap (Piece.spell delimiter word),
    after.flatMap (Piece.spell delimiter word), ?_⟩
  rw [← text_eq, List.append_assoc]
  rfl

/-! ### Values without delimiters -/

/-- A delimiter of the result is one that has been kept. -/
theorem exists_kept_of_render (clean : ∀ name, delimiter ∉ value name) {pieces : List (Piece α ν)}
    {left right : List α}
    (split : pieces.flatMap (Piece.render value) = left ++ delimiter :: right) :
    ∃ before after, pieces = before ++ .kept delimiter :: after ∧
      before.flatMap (Piece.render value) = left ∧ after.flatMap (Piece.render value) = right := by
  induction pieces generalizing left with
  | nil => exact absurd split.symm (List.append_ne_nil_of_right_ne_nil _ (List.cons_ne_nil _ _))
  | cons piece pieces ih =>
      rw [List.flatMap_cons] at split
      rcases List.append_eq_append_iff.mp split with ⟨rest, isLeft, whole⟩ | ⟨rest, isPiece, whole⟩
      · obtain ⟨before, after, rfl, rendered, rest'⟩ := ih whole
        refine ⟨piece :: before, after, rfl, ?_, rest'⟩
        rw [List.flatMap_cons, rendered, isLeft]
      · cases rest with
        | nil =>
            rw [List.append_nil] at isPiece
            have first : pieces.flatMap (Piece.render value) = [] ++ delimiter :: right :=
              whole.symm
            obtain ⟨before, after, rfl, rendered, rest'⟩ := ih first
            refine ⟨piece :: before, after, rfl, ?_, rest'⟩
            rw [List.flatMap_cons, rendered, isPiece, List.append_nil]
        | cons letter rest =>
            cases whole
            have inPiece : delimiter ∈ piece.render value := by
              rw [isPiece]
              exact List.mem_append_right _ (List.mem_cons_self ..)
            cases piece with
            | placeholder name => exact absurd inPiece (clean name)
            | kept letter' =>
                obtain ⟨rfl, single⟩ :=
                  List.append_eq_singleton_iff.mp isPiece.symm |>.resolve_right
                  (by simp)
                cases single
                exact ⟨[], pieces, rfl, rfl, rfl⟩

/-- A placeholder of the result is spelt by pieces between two kept delimiters. -/
theorem infix_render_iff (wordClean : ∀ name, delimiter ∉ word name)
    (clean : ∀ name, delimiter ∉ value name) {text : List α} {pieces : List (Piece α ν)}
    (reads : ReadsAs delimiter word text pieces) :
    (∃ name, delimited delimiter (word name) <:+: pieces.flatMap (Piece.render value)) ↔
      Joins delimiter word value pieces := by
  constructor
  · rintro ⟨name, left, right, whole⟩
    have first : pieces.flatMap (Piece.render value) =
        left ++ delimiter :: (word name ++ delimiter :: right) := by
      rw [← whole, delimited]
      simp
    obtain ⟨before, rest, rfl, _, second⟩ := exists_kept_of_render clean first
    obtain ⟨between, after, rfl, spelt, _⟩ := exists_kept_of_render clean second
    have noneKept : .kept delimiter ∉ between := by
      intro inside
      refine wordClean name ?_
      rw [← spelt]
      exact List.mem_flatMap.mpr ⟨_, inside, List.mem_singleton_self _⟩
    refine ⟨before, between, after, name, rfl, noneKept, ?_, spelt⟩
    by_contra onlyKept
    -- Otherwise the placeholder would have been read.
    have unchanged := render_eq_spell delimiter word value fun inner inside =>
      onlyKept ⟨inner, inside⟩
    refine reads.suffix.not_prefix name ⟨after.flatMap (Piece.spell delimiter word), ?_⟩
    rw [List.flatMap_cons, List.flatMap_append, List.flatMap_cons, ← unchanged, spelt, delimited]
    simp [Piece.spell]
  · rintro ⟨before, between, after, name, rfl, _, _, spelt⟩
    refine ⟨name, before.flatMap (Piece.render value), after.flatMap (Piece.render value), ?_⟩
    rw [List.flatMap_append, List.flatMap_cons, List.flatMap_append, List.flatMap_cons, spelt,
      delimited]
    simp [Piece.render]

/-- Values without delimiters leave no more delimiters than there were. -/
theorem count_render_le [DecidableEq α] (word : ν → List α) (clean : ∀ name, delimiter ∉ value name)
    (pieces : List (Piece α ν)) :
    (pieces.flatMap (Piece.render value)).count delimiter ≤
      (pieces.flatMap (Piece.spell delimiter word)).count delimiter := by
  induction pieces with
  | nil => exact Nat.le_refl _
  | cons piece pieces ih =>
      rw [List.flatMap_cons, List.flatMap_cons, List.count_append, List.count_append]
      cases piece with
      | kept letter => exact Nat.add_le_add_left ih _
      | placeholder name =>
          have none : (value name).count delimiter = 0 := List.count_eq_zero.mpr (clean name)
          rw [Piece.render, none]
          exact Nat.add_le_add (Nat.zero_le _) ih

/-- A placeholder takes its delimiters away. -/
theorem count_render_lt [DecidableEq α] (word : ν → List α) (clean : ∀ name, delimiter ∉ value name)
    {pieces : List (Piece α ν)} {name : ν} (inside : .placeholder name ∈ pieces) :
    (pieces.flatMap (Piece.render value)).count delimiter <
      (pieces.flatMap (Piece.spell delimiter word)).count delimiter := by
  obtain ⟨before, after, rfl⟩ := List.append_of_mem inside
  have none : (value name).count delimiter = 0 := List.count_eq_zero.mpr (clean name)
  have some : 0 < (delimited delimiter (word name)).count delimiter :=
    List.count_pos_iff.mpr (List.mem_cons_self ..)
  have ofBefore := count_render_le word clean before
  have ofAfter := count_render_le word clean after
  simp only [List.flatMap_append, List.flatMap_cons, List.count_append, Piece.render, Piece.spell,
    none]
  omega

/-- When a text becomes one that it is the beginning of, it has no placeholder and is the
whole. -/
theorem eq_of_render_prefix [DecidableEq α] (clean : ∀ name, delimiter ∉ value name)
    {text : List α} {pieces : List (Piece α ν)} (reads : ReadsAs delimiter word text pieces)
    (begins : text <+: pieces.flatMap (Piece.render value)) :
    (∀ name, .placeholder name ∉ pieces) ∧ pieces.flatMap (Piece.render value) = text := by
  have all : ∀ name, .placeholder name ∉ pieces := by
    intro name inside
    have fewer := count_render_lt word clean inside
    rw [reads.spell] at fewer
    have more := begins.sublist.count_le delimiter
    omega
  exact ⟨all, by rw [render_eq_spell delimiter word value all, reads.spell]⟩

end SmartMetWfs.Foundation
