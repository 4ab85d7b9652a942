import Mathlib.Data.List.Basic
import Mathlib.Data.List.Induction
import Mathlib.Data.Option.Basic
import Mathlib.Order.Lattice
import Mathlib.Tactic.Common

/-!
# Stretches of equal keys

Items are cut into stretches by comparing the key of each item with that of the head of
the current stretch. Something is carried from stretch to stretch, and the key of a new
stretch changes it. If the items are sorted by their keys, the stretches are the classes of
items with equal keys, and what is carried into a stretch depends on the keys before it.
-/

namespace SmartMetWfs.Foundation

/-- Items that follow each other, with what was carried into them. -/
structure Stretch (γ α : Type) where
  carried : γ
  head : α
  tail : List α

variable {α κ γ : Type}

/-- The first item and those that have joined it. -/
def Stretch.items (stretch : Stretch γ α) : List α := stretch.head :: stretch.tail

section

variable [DecidableEq κ] (key : α → κ) (carry : γ → κ → γ) (start : γ)

/-- An item goes into the last stretch, if that has its key, or begins a stretch. -/
def addItem (stretches : List (Stretch γ α)) (item : α) : List (Stretch γ α) :=
  match stretches.getLast? with
  | none => [⟨carry start (key item), item, []⟩]
  | some last =>
      if key last.head = key item then
        stretches.dropLast ++ [{ last with tail := last.tail ++ [item] }]
      else stretches ++ [⟨carry last.carried (key item), item, []⟩]

/-- The items are added one after the other. -/
def stretches (items : List α) : List (Stretch γ α) := items.foldl (addItem key carry start) []

variable {key carry start}

theorem addItem_nil (item : α) :
    addItem key carry start [] item = [⟨carry start (key item), item, []⟩] := rfl

/-- An item with the key of the last stretch joins it. -/
theorem addItem_same {front : List (Stretch γ α)} {last : Stretch γ α} {item : α}
    (same : key last.head = key item) :
    addItem key carry start (front ++ [last]) item =
      front ++ [{ last with tail := last.tail ++ [item] }] := by
  rw [addItem, List.getLast?_concat, List.dropLast_concat]
  exact if_pos same

/-- An item with another key begins a stretch. -/
theorem addItem_other {front : List (Stretch γ α)} {last : Stretch γ α} {item : α}
    (other : key last.head ≠ key item) :
    addItem key carry start (front ++ [last]) item =
      front ++ [last] ++ [⟨carry last.carried (key item), item, []⟩] := by
  rw [addItem, List.getLast?_concat]
  exact if_neg other

end

section

variable [LinearOrder κ] {key : α → κ} {carry : γ → κ → γ} {start : γ}

/-- What the keys before this one and this one carry. -/
def carriedInto (carry : γ → κ → γ) (start : γ) (keys : List κ) (current : κ) : γ :=
  carry ((keys.filter (· < current)).foldl carry start) current

/-- An item with another key is not among those of a key. -/
theorem filter_concat_of_ne {items : List α} {item : α} {current : κ} (other : key item ≠ current) :
    (items ++ [item]).filter (fun item => key item = current) =
      items.filter fun item => key item = current := by
  rw [List.filter_append, List.filter_cons_of_neg (by simpa using other), List.filter_nil,
    List.append_nil]

/-- An item with the key is the last of those that have it. -/
theorem filter_concat_of_eq {items : List α} {item : α} {current : κ} (same : key item = current) :
    (items ++ [item]).filter (fun item => key item = current) =
      items.filter (fun item => key item = current) ++ [item] := by
  rw [List.filter_append, List.filter_cons_of_pos (by simpa using same), List.filter_nil]

/-- A greater key changes nothing for the keys before it. -/
theorem carriedInto_concat {keys : List κ} {current greater : κ} (below : current < greater) :
    carriedInto carry start (keys ++ [greater]) current = carriedInto carry start keys current := by
  rw [carriedInto, List.filter_append, List.filter_cons_of_neg (by simpa using below.le),
    List.filter_nil, List.append_nil, carriedInto]

/-- What is carried into the greatest key has passed all the others. -/
theorem carriedInto_last {keys : List κ} {greatest : κ}
    (below : ∀ current ∈ keys, current < greatest) :
    carriedInto carry start (keys ++ [greatest]) greatest =
      carry (keys.foldl carry start) greatest := by
  have kept : keys.filter (· < greatest) = keys :=
    List.filter_eq_self.mpr fun current member => decide_eq_true (below current member)
  rw [carriedInto, List.filter_append, List.filter_cons_of_neg (by simp), List.filter_nil,
    List.append_nil, kept]

/-- The keys in order, with the stretches that belong to them. -/
structure Classified (key : α → κ) (carry : γ → κ → γ) (start : γ) (items : List α)
    (stretches : List (Stretch γ α)) (keys : List κ) : Prop where
  increasing : keys.Pairwise (· < ·)
  mem_keys : ∀ current, current ∈ keys ↔ ∃ item ∈ items, key item = current
  stretches_eq : stretches.map (fun stretch => (stretch.carried, stretch.items)) =
    keys.map fun current =>
      (carriedInto carry start keys current, items.filter fun item => key item = current)

namespace Classified

variable {items : List α} {item : α} {front : List (Stretch γ α)} {last : Stretch γ α}
  {keys : List κ}

/-- The last stretch belongs to the last key. -/
theorem split (classified : Classified key carry start items (front ++ [last]) keys) :
    ∃ before, keys = before ++ [key last.head] ∧
      front.map (fun stretch => (stretch.carried, stretch.items)) = before.map (fun current =>
        (carriedInto carry start keys current, items.filter fun item => key item = current)) ∧
      last.carried = carriedInto carry start keys (key last.head) ∧
      last.items = items.filter fun item => key item = key last.head := by
  rcases List.eq_nil_or_concat keys with rfl | ⟨before, current, rfl⟩
  · have none := classified.stretches_eq
    rw [List.map_nil, List.map_append] at none
    exact absurd none (List.append_ne_nil_of_right_ne_nil _ (List.cons_ne_nil _ _))
  · rw [List.concat_eq_append] at classified ⊢
    have matched := classified.stretches_eq
    rw [List.map_append, List.map_append] at matched
    obtain ⟨fronts, lasts⟩ := List.append_inj' matched rfl
    obtain ⟨carried, held⟩ := Prod.mk.inj (List.cons.inj lasts).1
    have inside : last.head ∈ items.filter fun item => key item = current :=
      held ▸ List.mem_cons_self
    have isKey : key last.head = current := of_decide_eq_true (List.mem_filter.mp inside).2
    subst isKey
    exact ⟨before, rfl, fronts, carried, held⟩

/-- An item with the last key. -/
theorem same (classified : Classified key carry start items (front ++ [last]) keys)
    (isLast : key last.head = key item) :
    Classified key carry start (items ++ [item])
      (front ++ [{ last with tail := last.tail ++ [item] }]) keys := by
  obtain ⟨before, rfl, fronts, carried, held⟩ := classified.split
  refine ⟨classified.increasing, fun current => ?_, ?_⟩
  · rw [classified.mem_keys]
    constructor
    · rintro ⟨other, member, isKey⟩
      exact ⟨other, List.mem_append_left _ member, isKey⟩
    · rintro ⟨other, member, isKey⟩
      rcases List.mem_append.mp member with old | new
      · exact ⟨other, old, isKey⟩
      · rw [List.mem_singleton.mp new, ← isLast] at isKey
        subst isKey
        exact (classified.mem_keys _).mp (List.mem_append_right _ List.mem_cons_self)
  · have kept : ∀ current ∈ before, (items ++ [item]).filter (fun item => key item = current) =
        items.filter fun item => key item = current := by
      intro current member
      have below := (List.pairwise_append.mp classified.increasing).2.2 current member _
        List.mem_cons_self
      rw [isLast] at below
      exact filter_concat_of_ne below.ne'
    rw [List.map_append, List.map_append, fronts]
    apply congrArg₂
    · exact List.map_congr_left fun current member => by rw [kept current member]
    · rw [List.map_singleton, List.map_singleton, filter_concat_of_eq isLast.symm, ← held,
        ← carried]
      rfl

/-- An item with a greater key. -/
theorem greater (classified : Classified key carry start items (front ++ [last]) keys)
    (above : ∀ current ∈ keys, current < key item) :
    Classified key carry start (items ++ [item])
      (front ++ [last] ++ [⟨carry last.carried (key item), item, []⟩]) (keys ++ [key item]) := by
  obtain ⟨before, isKeys, _, carried, _⟩ := classified.split
  refine ⟨?_, fun current => ?_, ?_⟩
  · refine List.pairwise_append.mpr ⟨classified.increasing, List.pairwise_singleton _ _, ?_⟩
    intro current member last isLast
    rw [List.mem_singleton.mp isLast]
    exact above current member
  · rw [List.mem_append, classified.mem_keys, List.mem_singleton]
    constructor
    · rintro (⟨other, member, isKey⟩ | rfl)
      · exact ⟨other, List.mem_append_left _ member, isKey⟩
      · exact ⟨item, List.mem_append_right _ List.mem_cons_self, rfl⟩
    · rintro ⟨other, member, isKey⟩
      rcases List.mem_append.mp member with old | new
      · exact .inl ⟨other, old, isKey⟩
      · exact .inr (List.mem_singleton.mp new ▸ isKey.symm)
  · have fresh : items.filter (fun other => key other = key item) = [] := by
      refine List.filter_eq_nil_iff.mpr fun other member isKey => ?_
      have listed := (classified.mem_keys (key item)).mpr ⟨other, member, of_decide_eq_true isKey⟩
      exact lt_irrefl _ (above _ listed)
    have folded : last.carried = keys.foldl carry start := by
      rw [carried, isKeys, List.foldl_append, carriedInto_last]
      · rfl
      · intro current member
        rw [isKeys] at classified
        exact (List.pairwise_append.mp classified.increasing).2.2 current member _
          List.mem_cons_self
    rw [List.map_append, classified.stretches_eq, List.map_append]
    apply congrArg₂
    · refine List.map_congr_left fun current member => ?_
      rw [filter_concat_of_ne (above current member).ne', carriedInto_concat (above current member)]
    · rw [List.map_singleton, List.map_singleton, filter_concat_of_eq rfl, fresh,
        carriedInto_last above, folded]
      rfl

/-- What is made of the stretches is made of the keys. -/
theorem map_eq {β : Type} {stretches : List (Stretch γ α)}
    (classified : Classified key carry start items stretches keys) (make : γ → κ → List α → β) :
    stretches.map (fun stretch => make stretch.carried (key stretch.head) stretch.items) =
      keys.map fun current => make (carriedInto carry start keys current) current
        (items.filter fun item => key item = current) := by
  let makeSome (stretch : γ × List α) : Option β :=
    stretch.2.head?.map fun head => make stretch.1 (key head) stretch.2
  have made := congrArg (List.map makeSome) classified.stretches_eq
  rw [List.map_map, List.map_map] at made
  apply List.map_injective_iff.mpr (Option.some_injective β)
  rw [List.map_map, List.map_map]
  refine made.trans (List.map_congr_left fun current member => ?_)
  obtain ⟨item, inItems, isKey⟩ := (classified.mem_keys current).mp member
  have inside : item ∈ items.filter fun item => key item = current :=
    List.mem_filter.mpr ⟨inItems, decide_eq_true isKey⟩
  cases held : items.filter fun item => key item = current with
  | nil =>
      rw [held] at inside
      cases inside
  | cons head tail =>
      have isHead : head ∈ items.filter fun item => key item = current :=
        held ▸ List.mem_cons_self
      have headKey : key head = current := of_decide_eq_true (List.mem_filter.mp isHead).2
      change (items.filter fun item => key item = current).head?.map _ = some _
      rw [held]
      exact congrArg (fun key => some (make _ key _)) headKey

end Classified

/-- The stretches of sorted items are the classes of items with equal keys. -/
theorem stretches_classified {items : List α}
    (sorted : items.Pairwise fun first second => key first ≤ key second) :
    ∃ keys, Classified key carry start items (stretches key carry start items) keys := by
  induction items using List.reverseRecOn with
  | nil => exact ⟨[], .nil, fun current => by simp, rfl⟩
  | append_singleton items item ih =>
      obtain ⟨sortedItems, _, least⟩ := List.pairwise_append.mp sorted
      obtain ⟨keys, classified⟩ := ih sortedItems
      have below : ∀ current ∈ keys, current ≤ key item := by
        intro current member
        obtain ⟨other, inItems, rfl⟩ := (classified.mem_keys current).mp member
        exact least other inItems item List.mem_cons_self
      rw [stretches, List.foldl_append]
      change ∃ keys, Classified key carry start (items ++ [item])
        (addItem key carry start (stretches key carry start items) item) keys
      rcases List.eq_nil_or_concat (stretches key carry start items) with none | ⟨front, last, some⟩
      · rw [none] at classified ⊢
        obtain rfl : keys = [] := List.map_eq_nil_iff.mp classified.stretches_eq.symm
        have noItems : items = [] := by
          refine List.eq_nil_iff_forall_not_mem.mpr fun other member => ?_
          cases (classified.mem_keys (key other)).mpr ⟨other, member, rfl⟩
        subst noItems
        refine ⟨[key item], List.pairwise_singleton _ _, fun current => by simp [eq_comm], ?_⟩
        have own : ([] ++ [item]).filter (fun other => key other = key item) = [item] :=
          filter_concat_of_eq rfl
        have carried : carriedInto carry start ([] ++ [key item]) (key item) =
            carry start (key item) := carriedInto_last (List.forall_mem_nil _)
        rw [addItem_nil, List.map_singleton, List.map_singleton, own]
        exact congrArg (fun carried => [(carried, [item])]) carried.symm
      · rw [List.concat_eq_append] at some
        rw [some] at classified ⊢
        by_cases isLast : key last.head = key item
        · rw [addItem_same isLast]
          exact ⟨keys, classified.same isLast⟩
        · rw [addItem_other isLast]
          refine ⟨_, classified.greater fun current member => ?_⟩
          obtain ⟨before, rfl, _, _, _⟩ := classified.split
          refine lt_of_le_of_ne (below current member) ?_
          rintro rfl
          rcases List.mem_append.mp member with earlier | atEnd
          · have lastAbove := (List.pairwise_append.mp classified.increasing).2.2 _ earlier _
              List.mem_cons_self
            have lastBelow := below _ (List.mem_append_right before List.mem_cons_self)
            exact lastBelow.not_gt lastAbove
          · exact isLast (List.mem_singleton.mp atEnd).symm

end

end SmartMetWfs.Foundation
