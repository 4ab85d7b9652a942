import Mathlib.Data.List.Infix
import SmartMetWfs.Foundation.PrefixCode

/-!
# Replacing all occurrences of a text

The occurrences of a text in another one are replaced from the left, and what has been put
in is not looked at again. A text that ends in a separator and has it nowhere else is found
only within the stretches between separators, so that these are rewritten one by one, and
in each of them only the end can change.
-/

namespace SmartMetWfs.Foundation

variable {α : Type} [DecidableEq α]

/-- Replace from the left, after some letters have been passed over. -/
def replaceFrom (old new : List α) : Nat → List α → List α
  | _, [] => []
  | skip + 1, _ :: rest => replaceFrom old new skip rest
  | 0, letter :: rest =>
      if old <+: letter :: rest then new ++ replaceFrom old new (old.length - 1) rest
      else letter :: replaceFrom old new 0 rest

/-- Replace every occurrence of a text that is not empty. -/
def replaceAll (old new text : List α) : List α := replaceFrom old new 0 text

variable {old new : List α}

/-- The items that are skipped belong to a word that has been replaced. -/
theorem replaceFrom_eq (skip : Nat) (text : List α) :
    replaceFrom old new skip text = replaceAll old new (text.drop skip) := by
  induction skip generalizing text with
  | zero => rfl
  | succ skip ih =>
      cases text with
      | nil => rfl
      | cons letter rest => exact ih rest

@[simp] theorem replaceAll_nil : replaceAll old new ([] : List α) = [] := rfl

/-- A text that begins with the word. -/
theorem replaceAll_append_old (some : old ≠ []) (rest : List α) :
    replaceAll old new (old ++ rest) = new ++ replaceAll old new rest := by
  obtain ⟨letter, tail, rfl⟩ := List.exists_cons_of_ne_nil some
  have found : letter :: tail <+: letter :: (tail ++ rest) :=
    List.prefix_append (letter :: tail) rest
  rw [List.cons_append, replaceAll, replaceFrom, if_pos found, replaceFrom_eq, List.length_cons,
    Nat.add_sub_cancel, List.drop_left]

/-- A letter where the word does not begin stays. -/
theorem replaceAll_cons {letter : α} {rest : List α} (other : ¬old <+: letter :: rest) :
    replaceAll old new (letter :: rest) = letter :: replaceAll old new rest := by
  rw [replaceAll, replaceFrom, if_neg other]
  rfl

/-- A text without occurrences stays. -/
theorem replaceAll_of_absent {text : List α} (absent : ¬old <:+: text) :
    replaceAll old new text = text := by
  induction text with
  | nil => rfl
  | cons letter rest ih =>
      rw [replaceAll_cons fun found => absent found.isInfix,
        ih fun found => absent (found.trans (List.suffix_cons letter rest).isInfix)]

/-- A text is looked through from the left: it is empty, begins with an occurrence or with
a letter that begins none. -/
@[elab_as_elim]
theorem occurrences_induction {motive : List α → Prop} (some : old ≠ []) (nil : motive [])
    (occurrence : ∀ rest, motive rest → motive (old ++ rest))
    (letter : ∀ letter rest, ¬old <+: letter :: rest → motive rest → motive (letter :: rest))
    (text : List α) : motive text := by
  induction size : text.length using Nat.strong_induction_on generalizing text with
  | _ length ih =>
  by_cases found : old <+: text
  · obtain ⟨rest, rfl⟩ := found
    have shorter : rest.length < length := by
      have positive : 0 < old.length := List.length_pos_iff.mpr some
      rw [← size, List.length_append]
      omega
    exact occurrence rest (ih rest.length shorter rest rfl)
  · cases text with
    | nil => exact nil
    | cons first rest =>
        have shorter : rest.length < length := by
          rw [← size]
          exact Nat.lt_succ_self rest.length
        exact letter first rest found (ih rest.length shorter rest rfl)

/-- To replace a text by itself changes nothing. -/
theorem replaceAll_self (some : old ≠ []) (text : List α) : replaceAll old old text = text := by
  induction text using occurrences_induction some with
  | nil => rfl
  | occurrence rest ih => rw [replaceAll_append_old some, ih]
  | letter letter rest other ih => rw [replaceAll_cons other, ih]

/-- Each replacement changes the length by the same amount. -/
theorem length_replaceAll (some : old ≠ []) (text : List α) :
    ∃ count, (replaceAll old new text).length + count * old.length =
      text.length + count * new.length := by
  induction text using occurrences_induction some with
  | nil =>
      refine ⟨0, ?_⟩
      rw [replaceAll_nil, Nat.zero_mul, Nat.zero_mul]
  | occurrence rest ih =>
      obtain ⟨count, counted⟩ := ih
      refine ⟨count + 1, ?_⟩
      rw [replaceAll_append_old some, List.length_append, List.length_append, Nat.succ_mul,
        Nat.succ_mul]
      omega
  | letter letter rest other ih =>
      obtain ⟨count, counted⟩ := ih
      refine ⟨count, ?_⟩
      rw [replaceAll_cons other, List.length_cons, List.length_cons]
      omega

/-- Only a text without occurrences stays when another text is put in. -/
theorem not_infix_of_replaceAll_eq (some : old ≠ []) (other : new ≠ old) {text : List α}
    (stays : replaceAll old new text = text) : ¬old <:+: text := by
  induction text with
  | nil => exact fun found => some (List.infix_nil.mp found)
  | cons letter rest ih =>
      by_cases found : old <+: letter :: rest
      · exfalso
        obtain ⟨after, split⟩ := found
        rw [← split, replaceAll_append_old some] at stays
        obtain ⟨count, counted⟩ := @length_replaceAll _ _ old new some after
        have lengths := congrArg List.length stays
        rw [List.length_append, List.length_append] at lengths
        have same : (count + 1) * old.length = (count + 1) * new.length := by
          rw [Nat.succ_mul, Nat.succ_mul]
          omega
        have sameLength := Nat.eq_of_mul_eq_mul_left (Nat.succ_pos count) same
        exact other (List.append_inj stays sameLength.symm).1
      · rw [replaceAll_cons found] at stays
        rw [List.infix_cons_iff, not_or]
        exact ⟨found, ih (List.cons_injective stays)⟩

/-! ### Between separators -/

variable {separator : α} {word : List α}

omit [DecidableEq α] in
/-- An occurrence that reaches a separator ends there. -/
theorem prefix_of_prefix_separator (clean : separator ∉ word) {stretch rest : List α}
    (found : word ++ [separator] <+: stretch ++ separator :: rest) :
    word ++ [separator] <+: stretch ++ [separator] := by
  have whole : stretch ++ [separator] <+: stretch ++ separator :: rest :=
    ⟨rest, (List.append_cons stretch separator rest).symm⟩
  rcases List.prefix_or_prefix_of_prefix found whole with short | long
  · exact short
  · by_cases same : (stretch ++ [separator]).length = (word ++ [separator]).length
    · rw [long.eq_of_length same]
    · have inWord : stretch ++ [separator] <+: word := by
        refine List.prefix_of_prefix_length_le long (List.prefix_append word [separator]) ?_
        have le := long.length_le
        rw [List.length_append, List.length_singleton] at same
        simp only [List.length_append, List.length_singleton] at same le ⊢
        omega
      exact absurd (inWord.subset (List.mem_append_right _ List.mem_cons_self)) clean

/-- What comes before a separator is rewritten apart from what follows it. -/
theorem replaceAll_stretch (clean : separator ∉ word) (stretch rest : List α) :
    replaceAll (word ++ [separator]) new (stretch ++ separator :: rest) =
      replaceAll (word ++ [separator]) new (stretch ++ [separator]) ++
        replaceAll (word ++ [separator]) new rest := by
  have some : word ++ [separator] ≠ [] := List.concat_ne_nil separator word
  induction length : stretch.length using Nat.strong_induction_on generalizing stretch with
  | _ length ih =>
  by_cases found : word ++ [separator] <+: stretch ++ [separator]
  · obtain ⟨more, split⟩ := found
    have whole : stretch ++ separator :: rest = (word ++ [separator]) ++ (more ++ rest) := by
      rw [List.append_cons, ← split, List.append_assoc]
    rw [whole, ← split, replaceAll_append_old some, replaceAll_append_old some, List.append_assoc]
    apply congrArg
    rcases List.eq_nil_or_concat' more with rfl | ⟨stretch', last, rfl⟩
    · rfl
    · rw [← List.append_assoc] at split
      obtain ⟨shorter, isLast⟩ := List.append_inj' split rfl
      obtain rfl := List.singleton_inj.mp isLast
      rw [← List.append_cons]
      refine ih stretch'.length ?_ stretch' rfl
      rw [← length, ← shorter, List.length_append, List.length_append, List.length_singleton]
      omega
  · have notFound : ¬word ++ [separator] <+: stretch ++ separator :: rest := fun occurs =>
      found (prefix_of_prefix_separator clean occurs)
    cases stretch with
    | nil =>
        rw [List.nil_append] at found notFound ⊢
        rw [List.nil_append, replaceAll_cons found, replaceAll_cons notFound]
        rfl
    | cons letter stretch' =>
        rw [List.cons_append] at found notFound ⊢
        rw [List.cons_append, replaceAll_cons found, replaceAll_cons notFound,
          ih stretch'.length (by rw [← length]; exact Nat.lt_succ_self _) stretch' rfl]
        rfl

/-- A word that is sought at separators is replaced at the end of every stretch. -/
theorem replaceAll_stretches {β : Type} (clean : separator ∉ word) (stretch : β → List α)
    (parts : List β) (last : List α) :
    replaceAll (word ++ [separator]) new
        ((parts.flatMap fun part => stretch part ++ [separator]) ++ last) =
      (parts.flatMap fun part =>
        replaceAll (word ++ [separator]) new (stretch part ++ [separator])) ++
        replaceAll (word ++ [separator]) new last := by
  induction parts with
  | nil => rfl
  | cons part parts ih =>
      rw [List.flatMap_cons, List.append_assoc, List.append_assoc, List.singleton_append,
        replaceAll_stretch clean, ih, List.flatMap_cons, List.append_assoc]

/-- Before a separator, a word at the end is replaced. -/
theorem replaceAll_word (clean : separator ∉ word) {lead : List α} (cleanLead : separator ∉ lead) :
    replaceAll (word ++ [separator]) new (lead ++ word ++ [separator]) = lead ++ new := by
  have some : word ++ [separator] ≠ [] := List.concat_ne_nil separator word
  induction lead with
  | nil =>
      have only := @replaceAll_append_old _ _ _ new some []
      rw [List.append_nil, replaceAll_nil, List.append_nil] at only
      exact only
  | cons letter lead ih =>
      rw [List.mem_cons, not_or] at cleanLead
      have notFound : ¬word ++ [separator] <+: letter :: (lead ++ word ++ [separator]) := by
        intro found
        have inside : word ++ [separator] <+: letter :: (lead ++ word) := by
          refine List.prefix_of_prefix_length_le found ⟨[separator], rfl⟩ ?_
          simp only [List.length_append, List.length_cons, List.length_nil]
          omega
        rcases List.mem_cons.mp (inside.subset (List.mem_append_right _ List.mem_cons_self)) with
          same | inRest
        · exact cleanLead.1 same
        · exact (List.mem_append.mp inRest).elim cleanLead.2 clean
      rw [List.cons_append, List.cons_append, replaceAll_cons notFound, ih cleanLead.2]
      rfl

omit [DecidableEq α] in
/-- Before a separator, a word occurs at the end only. -/
theorem suffix_of_infix_concat {stretch : List α} (cleanStretch : separator ∉ stretch)
    (found : word ++ [separator] <:+: stretch ++ [separator]) : word <:+ stretch := by
  obtain ⟨before, after, split⟩ := found
  rcases List.eq_nil_or_concat' after with rfl | ⟨after', last, rfl⟩
  · rw [List.append_nil, ← List.append_assoc] at split
    exact ⟨before, (List.append_inj' split rfl).1⟩
  · rw [← List.append_assoc] at split
    have inside := (List.append_inj' split rfl).1
    rw [← inside] at cleanStretch
    exact absurd (by simp) cleanStretch

/-- Before a separator, a stretch without separators stays unless the word is at its end. -/
theorem replaceAll_stretch_of_not_suffix {stretch : List α} (cleanStretch : separator ∉ stretch)
    (absent : ¬word <:+ stretch) :
    replaceAll (word ++ [separator]) new (stretch ++ [separator]) = stretch ++ [separator] :=
  replaceAll_of_absent fun found => absent (suffix_of_infix_concat cleanStretch found)

/-- Replace a word at the end. -/
def replaceEnd (word new stretch : List α) : List α :=
  if word <:+ stretch then stretch.take (stretch.length - word.length) ++ new else stretch

/-- The word at the end is replaced. -/
theorem replaceEnd_append (word new lead : List α) :
    replaceEnd word new (lead ++ word) = lead ++ new := by
  rw [replaceEnd, if_pos (List.suffix_append lead word), List.length_append, Nat.add_sub_cancel,
    List.take_left]

/-- Without the word at the end nothing is replaced. -/
theorem replaceEnd_of_not_suffix {stretch : List α} (absent : ¬word <:+ stretch) :
    replaceEnd word new stretch = stretch := if_neg absent

/-- A stretch stays free of separators. -/
theorem notMem_replaceEnd {stretch : List α} (clean : separator ∉ stretch)
    (cleanNew : separator ∉ new) : separator ∉ replaceEnd word new stretch := by
  unfold replaceEnd
  split
  · rw [List.mem_append, not_or]
    exact ⟨fun inLead => clean (List.mem_of_mem_take inLead), cleanNew⟩
  · exact clean

/-- Before a separator, only the end of a stretch can change. -/
theorem replaceAll_concat (clean : separator ∉ word) {stretch : List α}
    (cleanStretch : separator ∉ stretch) :
    replaceAll (word ++ [separator]) (new ++ [separator]) (stretch ++ [separator]) =
      replaceEnd word new stretch ++ [separator] := by
  by_cases ends : word <:+ stretch
  · obtain ⟨lead, rfl⟩ := ends
    have cleanLead : separator ∉ lead := fun inLead =>
      cleanStretch (List.mem_append_left word inLead)
    rw [replaceAll_word clean cleanLead, replaceEnd_append, List.append_assoc]
  · rw [replaceAll_stretch_of_not_suffix cleanStretch ends, replaceEnd_of_not_suffix ends]

/-- The stretches between separators are known from the whole. -/
theorem stretches_injective {β : Type} {stretch stretch' : β → List α} {parts : List β}
    {last last' : List α} (clean : ∀ part ∈ parts, separator ∉ stretch part)
    (clean' : ∀ part ∈ parts, separator ∉ stretch' part)
    (same : (parts.flatMap fun part => stretch part ++ [separator]) ++ last =
      (parts.flatMap fun part => stretch' part ++ [separator]) ++ last') :
    (∀ part ∈ parts, stretch part = stretch' part) ∧ last = last' := by
  have asWords : ∀ stretch : β → List α, (parts.flatMap fun part => stretch part ++ [separator]) =
      (parts.map stretch).flatMap (· ++ [separator]) := fun stretch => by rw [List.flatMap_map]
  rw [asWords, asWords] at same
  obtain ⟨stretches, lasts⟩ := (PrefixFree.separated separator).flatMap_of_length
    (List.forall_mem_map.mpr clean) (List.forall_mem_map.mpr clean')
    (by rw [List.length_map, List.length_map]) same
  exact ⟨List.map_inj_left.mp stretches, lasts⟩

end SmartMetWfs.Foundation
