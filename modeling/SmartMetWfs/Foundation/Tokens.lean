import Mathlib.Data.List.DropRight
import Mathlib.Tactic.Common

/-!
# Tokens of a text

The tokens of a sequence are its stretches without separators. They do not depend on what
is trimmed off its ends, and may be found in two steps: a sequence can first be split at
some of the separators.
-/

namespace SmartMetWfs.Foundation

variable {α : Type} {isSeparator : α → Bool}

/-- What is left when the separators at both ends are dropped. -/
def trim (isSeparator : α → Bool) (text : List α) : List α :=
  (text.dropWhile isSeparator).rdropWhile isSeparator

/-- The parts between separators, without the empty ones. -/
def tokens (isSeparator : α → Bool) (text : List α) : List (List α) :=
  (text.splitOnP isSeparator).filter fun token => !token.isEmpty

/-! ### Trimming -/

/-- A text is its trimmed part with separators around it. -/
theorem trim_spec (isSeparator : α → Bool) (text : List α) :
    ∃ before after, text = before ++ (trim isSeparator text ++ after) ∧
      (∀ item ∈ before, isSeparator item = true) ∧ ∀ item ∈ after, isSeparator item = true := by
  refine ⟨text.takeWhile isSeparator, (text.dropWhile isSeparator).rtakeWhile isSeparator, ?_,
    fun _ => List.mem_takeWhile_imp, fun _ => List.mem_rtakeWhile_imp⟩
  rw [trim, List.rdropWhile_append_rtakeWhile, List.takeWhile_append_dropWhile]

/-- Separators that follow are dropped from the end. -/
theorem rdropWhile_append_of_all {text after : List α}
    (all : ∀ item ∈ after, isSeparator item = true) :
    (text ++ after).rdropWhile isSeparator = text.rdropWhile isSeparator := by
  unfold List.rdropWhile
  rw [List.reverse_append, List.dropWhile_append_of_pos]
  exact fun item inside => all item (List.mem_reverse.mp inside)

/-- Nothing is dropped from an end that is no separator. -/
theorem rdropWhile_eq_self {text : List α}
    (last : ∀ item ∈ text.getLast?, isSeparator item = false) :
    text.rdropWhile isSeparator = text := by
  refine List.rdropWhile_eq_self_iff.mpr fun nonempty separator => ?_
  rw [last _ (List.getLast?_eq_some_getLast nonempty)] at separator
  cases separator

/-- Nothing is dropped from a start that is no separator. -/
theorem dropWhile_eq_self {text : List α}
    (first : ∀ item ∈ text.head?, isSeparator item = false) :
    text.dropWhile isSeparator = text := by
  cases text with
  | nil => rfl
  | cons item text => exact List.dropWhile_cons_of_neg (Bool.eq_false_iff.mp (first item rfl))

/-- A text without separators at its ends is trimmed already. -/
theorem trim_eq_self {text : List α} (first : ∀ item ∈ text.head?, isSeparator item = false)
    (last : ∀ item ∈ text.getLast?, isSeparator item = false) : trim isSeparator text = text := by
  rw [trim, dropWhile_eq_self first, rdropWhile_eq_self last]

/-- A trimmed text does not begin with a separator. -/
theorem trim_head (isSeparator : α → Bool) (text : List α) :
    ∀ item ∈ (trim isSeparator text).head?, isSeparator item = false := by
  intro item first
  have isPrefix : trim isSeparator text <+: text.dropWhile isSeparator := List.rdropWhile_prefix ..
  obtain ⟨rest, same⟩ := isPrefix
  have head : (text.dropWhile isSeparator).head? = some item := by
    rw [← same, List.head?_append, first, Option.some_or]
  have stops := List.head?_dropWhile_not isSeparator text
  rw [head] at stops
  exact stops

/-- A trimmed text does not end with a separator. -/
theorem trim_getLast (isSeparator : α → Bool) (text : List α) :
    ∀ item ∈ (trim isSeparator text).getLast?, isSeparator item = false := by
  intro item last
  have nonempty : trim isSeparator text ≠ [] := by
    intro empty
    rw [empty] at last
    cases last
  rw [List.getLast?_eq_some_getLast nonempty] at last
  cases last
  exact Bool.eq_false_iff.mpr (List.rdropWhile_last_not _ _ nonempty)

/-! ### Tokens -/

/-- No token reaches across a separator. -/
theorem tokens_append_cons {separator : α} (separates : isSeparator separator = true)
    (left right : List α) :
    tokens isSeparator (left ++ separator :: right) =
      tokens isSeparator left ++ tokens isSeparator right := by
  rw [tokens, List.splitOnP_append_cons left right separates, List.filter_append]
  rfl

/-- A separator in front makes no token. -/
theorem tokens_cons {separator : α} (separates : isSeparator separator = true) (text : List α) :
    tokens isSeparator (separator :: text) = tokens isSeparator text :=
  tokens_append_cons separates [] text

/-- A stretch without separators is one token. -/
theorem tokens_eq_singleton {text : List α} (nonempty : text ≠ [])
    (none : ∀ item ∈ text, isSeparator item = false) : tokens isSeparator text = [text] := by
  rw [tokens, List.splitOnP_eq_singleton none]
  cases text with
  | nil => exact absurd rfl nonempty
  | cons => rfl

/-- There is no token among separators alone. -/
theorem tokens_of_all {text : List α} (all : ∀ item ∈ text, isSeparator item = true) :
    tokens isSeparator text = [] := by
  induction text with
  | nil => rfl
  | cons item text ih =>
      rw [tokens_cons (all item (List.mem_cons_self ..))]
      exact ih fun other inside => all other (List.mem_cons_of_mem _ inside)

/-- Separators in front make no tokens. -/
theorem tokens_append_of_all {before : List α} (all : ∀ item ∈ before, isSeparator item = true)
    (text : List α) : tokens isSeparator (before ++ text) = tokens isSeparator text := by
  induction before with
  | nil => rfl
  | cons item before ih =>
      rw [List.cons_append, tokens_cons (all item (List.mem_cons_self ..))]
      exact ih fun other inside => all other (List.mem_cons_of_mem _ inside)

/-- Separators behind make no tokens. -/
theorem tokens_of_all_append {after : List α} (all : ∀ item ∈ after, isSeparator item = true)
    (text : List α) : tokens isSeparator (text ++ after) = tokens isSeparator text := by
  cases after with
  | nil => rw [List.append_nil]
  | cons item after =>
      have rest : tokens isSeparator after = [] := tokens_of_all fun other inside =>
        all other (List.mem_cons_of_mem _ inside)
      rw [tokens_append_cons (all item (List.mem_cons_self ..)), rest, List.append_nil]

/-- Trimming does not change the tokens. -/
theorem tokens_trim (text : List α) :
    tokens isSeparator (trim isSeparator text) = tokens isSeparator text := by
  obtain ⟨before, after, split, allBefore, allAfter⟩ := trim_spec isSeparator text
  conv_rhs => rw [split, tokens_append_of_all allBefore, tokens_of_all_append allAfter]

/-- An item that is no separator is in some token. -/
theorem tokens_cons_ne_nil {first : α} (other : isSeparator first = false) (text : List α) :
    tokens isSeparator (first :: text) ≠ [] := by
  obtain ⟨token, rest, split⟩ := List.exists_cons_of_ne_nil (List.splitOnP_ne_nil isSeparator text)
  rw [tokens, List.splitOnP_cons_eq_if_modifyHead, other, split]
  exact List.cons_ne_nil _ _

/-- Where there is something else than separators there is a token. -/
theorem tokens_ne_nil {text : List α} {item : α} (inside : item ∈ text)
    (other : isSeparator item = false) : tokens isSeparator text ≠ [] := by
  induction text with
  | nil => cases inside
  | cons first text ih =>
      cases separates : isSeparator first with
      | false => exact tokens_cons_ne_nil separates text
      | true =>
          rw [tokens_cons separates]
          rcases List.mem_cons.mp inside with rfl | later
          · exact absurd separates (Bool.eq_false_iff.mp other)
          · exact ih later

/-- A text with one token is that token with separators around it. -/
theorem trim_of_tokens {text token : List α} (single : tokens isSeparator text = [token]) :
    trim isSeparator text = token := by
  rw [← tokens_trim] at single
  have clean : ∀ item ∈ trim isSeparator text, isSeparator item = false := by
    intro item inside
    refine Bool.eq_false_iff.mpr fun separates => ?_
    obtain ⟨left, right, split⟩ := List.append_of_mem inside
    have head := trim_head isSeparator text
    have last := trim_getLast isSeparator text
    rw [split] at single head last
    rw [tokens_append_cons separates] at single
    -- There are tokens on both sides of a separator within.
    have leftTokens : tokens isSeparator left ≠ [] := by
      cases left with
      | nil => exact absurd separates (Bool.eq_false_iff.mp (head item rfl))
      | cons first left => exact tokens_cons_ne_nil (head first rfl) left
    have rightTokens : tokens isSeparator right ≠ [] := by
      rcases List.eq_nil_or_concat right with rfl | ⟨init, final, rfl⟩
      · exact absurd separates (Bool.eq_false_iff.mp (last item (by simp)))
      · rw [List.concat_eq_append] at last ⊢
        have isLast : (left ++ item :: (init ++ [final])).getLast? = some final := by
          rw [← List.cons_append, ← List.append_assoc, List.getLast?_concat]
        exact tokens_ne_nil (List.mem_append_right _ (List.mem_singleton_self final))
          (last final isLast)
    have count := congrArg List.length single
    rw [List.length_append, List.length_singleton] at count
    have := List.length_pos_of_ne_nil leftTokens
    have := List.length_pos_of_ne_nil rightTokens
    omega
  have nonempty : trim isSeparator text ≠ [] := by
    intro empty
    rw [empty] at single
    cases single
  rw [tokens_eq_singleton nonempty clean] at single
  exact (List.cons.inj single).1

/-- The first part of a split text is completed by what stands before it. -/
theorem tokens_append_splitOnP {isFirst : α → Bool}
    (finer : ∀ item, isFirst item = true → isSeparator item = true) {text head : List α}
    {tail : List (List α)} (split : text.splitOnP isFirst = head :: tail) (before : List α) :
    tokens isSeparator (before ++ head) ++ tail.flatMap (tokens isSeparator) =
      tokens isSeparator (before ++ text) := by
  induction text generalizing before head tail with
  | nil =>
      cases split
      exact List.append_nil _
  | cons item text ih =>
      obtain ⟨head', tail', split'⟩ :=
        List.exists_cons_of_ne_nil (List.splitOnP_ne_nil isFirst text)
      rw [List.splitOnP_cons_eq_if_modifyHead, split'] at split
      cases separates : isFirst item with
      | true =>
          rw [if_pos separates] at split
          cases split
          rw [tokens_append_cons (finer item separates), List.append_nil, List.flatMap_cons]
          exact congrArg _ (ih split' [])
      | false =>
          rw [separates] at split
          cases split
          have rest := ih split' (before ++ [item])
          rwa [List.append_assoc, List.append_assoc] at rest

/-- Splitting at some of the separators first. -/
theorem flatMap_tokens_splitOnP {isFirst : α → Bool}
    (finer : ∀ item, isFirst item = true → isSeparator item = true) (text : List α) :
    (text.splitOnP isFirst).flatMap (tokens isSeparator) = tokens isSeparator text := by
  obtain ⟨head, tail, split⟩ := List.exists_cons_of_ne_nil (List.splitOnP_ne_nil isFirst text)
  rw [split]
  exact tokens_append_splitOnP finer split []

/-- As many tokens as parts, and none in which there is no token. -/
theorem tokens_eq_trim {parts : List (List α)}
    (some : ∀ part ∈ parts, tokens isSeparator part ≠ [])
    (count : (parts.flatMap (tokens isSeparator)).length = parts.length) :
    ∀ part ∈ parts, tokens isSeparator part = [trim isSeparator part] := by
  have atLeast : ∀ {parts : List (List α)}, (∀ part ∈ parts, tokens isSeparator part ≠ []) →
      parts.length ≤ (parts.flatMap (tokens isSeparator)).length := by
    intro parts some
    induction parts with
    | nil => exact Nat.le_refl _
    | cons part parts ih =>
        obtain ⟨first, rest⟩ := List.forall_mem_cons.mp some
        rw [List.flatMap_cons, List.length_append, List.length_cons]
        have := List.length_pos_of_ne_nil first
        have := ih rest
        omega
  induction parts with
  | nil => exact fun _ inside => absurd inside List.not_mem_nil
  | cons part parts ih =>
      obtain ⟨first, rest⟩ := List.forall_mem_cons.mp some
      rw [List.flatMap_cons, List.length_append, List.length_cons] at count
      have one := List.length_pos_of_ne_nil first
      have others := atLeast rest
      refine List.forall_mem_cons.mpr ⟨?_, ih rest (by omega)⟩
      obtain ⟨token, single⟩ :=
        List.length_eq_one_iff.mp (show (tokens isSeparator part).length = 1 by omega)
      rw [trim_of_tokens single, single]

/-- Parts with one token each have their trimmed texts as tokens. -/
theorem flatMap_tokens_of_single {parts : List (List α)}
    (single : ∀ part ∈ parts, tokens isSeparator part = [trim isSeparator part]) :
    parts.flatMap (tokens isSeparator) = parts.map (trim isSeparator) := by
  induction parts with
  | nil => rfl
  | cons part parts ih =>
      obtain ⟨first, rest⟩ := List.forall_mem_cons.mp single
      rw [List.flatMap_cons, List.map_cons, first, ih rest]
      rfl

end SmartMetWfs.Foundation
