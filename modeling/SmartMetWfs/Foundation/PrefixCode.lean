import Mathlib.Data.List.TakeWhile
import Mathlib.Tactic.Common

/-!
# Prefix-free codes

A code is prefix-free when the code of a value can be told off the front of any longer
sequence: neither the value nor what follows is in doubt. Codes of pairs, of lists of
known length and of lists with a flag before every item inherit this from their parts.
So do words that end where their letters do, and stretches between separators.
-/

namespace SmartMetWfs.Foundation

variable {α β τ : Type}

/-- What stands before a letter of another kind. -/
theorem span_word {isLetter : τ → Bool} {word rest : List τ}
    (all : ∀ letter ∈ word, isLetter letter = true)
    (stops : ∀ letter ∈ rest.head?, isLetter letter = false) :
    (word ++ rest).takeWhile isLetter = word ∧ (word ++ rest).dropWhile isLetter = rest := by
  rw [List.takeWhile_append_of_pos all, List.dropWhile_append_of_pos all]
  cases rest with
  | nil => exact ⟨List.append_nil _, rfl⟩
  | cons letter rest =>
      have other : ¬isLetter letter = true := Bool.eq_false_iff.mp (stops letter rfl)
      rw [List.takeWhile_cons_of_neg other, List.dropWhile_cons_of_neg other, List.append_nil]
      exact ⟨rfl, rfl⟩

/-- A word ends where its letters do. -/
theorem word_unique {isLetter : τ → Bool} {word word' rest rest' : List τ}
    (all : ∀ letter ∈ word, isLetter letter = true)
    (all' : ∀ letter ∈ word', isLetter letter = true)
    (stops : ∀ letter ∈ rest.head?, isLetter letter = false)
    (stops' : ∀ letter ∈ rest'.head?, isLetter letter = false)
    (same : word ++ rest = word' ++ rest') : word = word' ∧ rest = rest' := by
  have words := congrArg (List.takeWhile isLetter) same
  have rests := congrArg (List.dropWhile isLetter) same
  rw [(span_word all stops).1, (span_word all' stops').1] at words
  rw [(span_word all stops).2, (span_word all' stops').2] at rests
  exact ⟨words, rests⟩

/-- The codes of valid values determine the value and where the code ends. -/
def PrefixFree (valid : α → Prop) (code : α → List τ) : Prop :=
  ∀ first second rest rest', valid first → valid second →
    code first ++ rest = code second ++ rest' → first = second ∧ rest = rest'

namespace PrefixFree

variable {valid : α → Prop} {code : α → List τ}

/-- Two prefix-free codes are prefix-free one behind the other. -/
theorem append {valid' : β → Prop} {code' : β → List τ} (free : PrefixFree valid code)
    (free' : PrefixFree valid' code') :
    PrefixFree (fun pair : α × β => valid pair.1 ∧ valid' pair.2)
      fun pair => code pair.1 ++ code' pair.2 := by
  intro first second rest rest' validFirst validSecond same
  simp only [List.append_assoc] at same
  obtain ⟨firsts, same'⟩ := free _ _ _ _ validFirst.1 validSecond.1 same
  obtain ⟨seconds, rests⟩ := free' _ _ rest rest' validFirst.2 validSecond.2 same'
  exact ⟨Prod.ext firsts seconds, rests⟩

/-- Words with a separator behind them. -/
theorem separated [DecidableEq τ] (separator : τ) :
    PrefixFree (fun word => separator ∉ word) fun word => word ++ [separator] := by
  intro word word' rest rest' clean clean' same
  rw [List.append_assoc, List.append_assoc] at same
  have letters : ∀ {word : List τ}, separator ∉ word →
      ∀ letter ∈ word, decide (letter ≠ separator) = true := fun clean letter member =>
    decide_eq_true fun isSeparator => clean (isSeparator ▸ member)
  have stops : ∀ rest : List τ, ∀ letter ∈ ([separator] ++ rest).head?,
      decide (letter ≠ separator) = false := by
    rintro rest letter ⟨⟩
    exact decide_eq_false fun other => other rfl
  obtain ⟨words, rests⟩ :=
    word_unique (letters clean) (letters clean') (stops rest) (stops rest') same
  exact ⟨words, List.append_cancel_left rests⟩

/-- Lists of one length, item by item. -/
theorem flatMap_of_length (free : PrefixFree valid code) {first second : List α}
    {rest rest' : List τ} (validFirst : ∀ item ∈ first, valid item)
    (validSecond : ∀ item ∈ second, valid item) (length : first.length = second.length)
    (same : first.flatMap code ++ rest = second.flatMap code ++ rest') :
    first = second ∧ rest = rest' := by
  induction first generalizing second with
  | nil =>
      have empty : second = [] := List.length_eq_zero_iff.mp length.symm
      subst empty
      exact ⟨rfl, same⟩
  | cons item items ih =>
      cases second with
      | nil => cases length
      | cons item' items' =>
          simp only [List.flatMap_cons, List.append_assoc] at same
          obtain ⟨heads, same'⟩ := free item item' _ _ (validFirst item List.mem_cons_self)
            (validSecond item' List.mem_cons_self) same
          obtain ⟨tails, rests⟩ := ih
            (fun item member => validFirst item (List.mem_cons_of_mem _ member))
            (fun item member => validSecond item (List.mem_cons_of_mem _ member))
            (Nat.succ.inj length) same'
          exact ⟨congrArg₂ List.cons heads tails, rests⟩

/-- Lists with a flag before every item and another one at the end. -/
theorem flagged {more stop : τ} (distinct : more ≠ stop) (free : PrefixFree valid code) :
    PrefixFree (fun items : List α => ∀ item ∈ items, valid item)
      fun items => (items.flatMap fun item => [more] ++ code item) ++ [stop] := by
  intro first second rest rest' validFirst validSecond same
  induction first generalizing second with
  | nil =>
      cases second with
      | nil =>
          simp only [List.flatMap_nil, List.nil_append, List.cons_append] at same
          exact ⟨rfl, (List.cons.inj same).2⟩
      | cons item items => exact absurd (List.cons.inj same).1.symm distinct
  | cons item items ih =>
      cases second with
      | nil => exact absurd (List.cons.inj same).1 distinct
      | cons item' items' =>
          simp only [List.flatMap_cons, List.append_assoc, List.cons_append,
            List.nil_append] at same
          obtain ⟨heads, same'⟩ := free item item' _ _ (validFirst item List.mem_cons_self)
            (validSecond item' List.mem_cons_self) (List.cons.inj same).2
          obtain ⟨tails, rests⟩ := ih items'
            (fun item member => validFirst item (List.mem_cons_of_mem _ member))
            (fun item member => validSecond item (List.mem_cons_of_mem _ member))
            (by simpa only [List.append_assoc, List.cons_append, List.nil_append] using same')
          exact ⟨congrArg₂ List.cons heads tails, rests⟩

end PrefixFree

end SmartMetWfs.Foundation
