import Mathlib.Data.List.Dedup
import Mathlib.Data.List.Induction
import Mathlib.Order.Basic
import Mathlib.Order.Lattice
import Mathlib.Tactic.Common

/-!
# Ordered multimaps

A multimap keeps its entries in ascending key order; entries with equal keys stay
in the order in which they were inserted. The ordering is a field of the
structure, and a multimap is determined by the value lists of its keys.
-/

namespace SmartMetWfs.Foundation

/-- An ordered container of key-value pairs that allows repeated keys. -/
structure Multimap (κ ν : Type) [LinearOrder κ] where
  entries : List (κ × ν)
  sorted : entries.Pairwise fun first second => first.1 ≤ second.1

namespace Multimap

variable {κ ν : Type} [LinearOrder κ]

/-- A map is given by its entries. -/
theorem ext {left right : Multimap κ ν} (same : left.entries = right.entries) : left = right := by
  cases left
  cases right
  cases same
  rfl

instance [DecidableEq ν] : DecidableEq (Multimap κ ν) := fun left right =>
  decidable_of_iff (left.entries = right.entries) ⟨ext, fun same => same ▸ rfl⟩

/-- The map without entries. -/
def empty : Multimap κ ν := ⟨[], .nil⟩

/-- Place an entry after every entry whose key is not greater. -/
def insertEntry (key : κ) (value : ν) : List (κ × ν) → List (κ × ν)
  | [] => [(key, value)]
  | entry :: rest =>
      if entry.1 ≤ key then entry :: insertEntry key value rest
      else (key, value) :: entry :: rest

/-- After an insertion there is the new entry beside the others. -/
theorem mem_insertEntry {key : κ} {value : ν} {entries : List (κ × ν)} {entry : κ × ν} :
    entry ∈ insertEntry key value entries ↔ entry = (key, value) ∨ entry ∈ entries := by
  induction entries with
  | nil => simp [insertEntry]
  | cons head rest ih =>
      by_cases before : head.1 ≤ key
      · simp only [insertEntry, before, if_true, List.mem_cons, ih]
        exact or_left_comm
      · simp only [insertEntry, before, if_false, List.mem_cons]

/-- An insertion keeps the entries in order. -/
theorem insertEntry_sorted (key : κ) (value : ν) {entries : List (κ × ν)}
    (sorted : entries.Pairwise fun first second => first.1 ≤ second.1) :
    (insertEntry key value entries).Pairwise fun first second => first.1 ≤ second.1 := by
  induction entries with
  | nil => exact List.pairwise_singleton _ _
  | cons head rest ih =>
      obtain ⟨headLeast, restSorted⟩ := List.pairwise_cons.mp sorted
      by_cases before : head.1 ≤ key
      · simp only [insertEntry, before, if_true]
        refine List.pairwise_cons.mpr ⟨fun entry member => ?_, ih restSorted⟩
        rcases mem_insertEntry.mp member with rfl | member
        · exact before
        · exact headLeast entry member
      · simp only [insertEntry, before, if_false]
        have after : key ≤ head.1 := le_of_lt (not_le.mp before)
        refine List.pairwise_cons.mpr ⟨fun entry member => ?_, sorted⟩
        rcases List.mem_cons.mp member with rfl | member
        · exact after
        · exact after.trans (headLeast entry member)

/-- `std::multimap::insert`: the new entry goes last among the equal keys. -/
def insert (key : κ) (value : ν) (map : Multimap κ ν) : Multimap κ ν :=
  ⟨insertEntry key value map.entries, insertEntry_sorted key value map.sorted⟩

/-- The values stored under a key, in order. -/
def equalRange (map : Multimap κ ν) (key : κ) : List ν :=
  (map.entries.filter fun entry => entry.1 = key).map Prod.snd

/-- The number of values of a key. -/
def count (map : Multimap κ ν) (key : κ) : Nat := (map.equalRange key).length

/-- The number of entries. -/
def size (map : Multimap κ ν) : Nat := map.entries.length

/-- The distinct keys in ascending order. -/
def keys (map : Multimap κ ν) : List κ := (map.entries.map Prod.fst).dedup

/-- Drop every entry of a key. -/
def erase (key : κ) (map : Multimap κ ν) : Multimap κ ν :=
  ⟨map.entries.filter fun entry => entry.1 ≠ key, map.sorted.filter _⟩

/-- Insert a list of pairs one after the other. -/
def insertAll (pairs : List (κ × ν)) (map : Multimap κ ν) : Multimap κ ν :=
  pairs.foldl (fun result pair => result.insert pair.1 pair.2) map

@[simp] theorem equalRange_empty (key : κ) : (empty : Multimap κ ν).equalRange key = [] := rfl

/-- An insertion adds one entry and leaves the others. -/
theorem insertEntry_perm (key : κ) (value : ν) (entries : List (κ × ν)) :
    (insertEntry key value entries).Perm ((key, value) :: entries) := by
  induction entries with
  | nil => exact .refl _
  | cons head rest ih =>
      unfold insertEntry
      split
      · exact (ih.cons head).trans (.swap _ _ _)
      · exact .refl _

/-- The entries of a list are added to those of the map. -/
theorem insertAll_perm (pairs : List (κ × ν)) (map : Multimap κ ν) :
    (map.insertAll pairs).entries.Perm (pairs ++ map.entries) := by
  induction pairs generalizing map with
  | nil => exact .refl _
  | cons pair rest ih =>
      have placed :
          (rest ++ (map.insert pair.1 pair.2).entries).Perm (rest ++ pair :: map.entries) :=
        (insertEntry_perm pair.1 pair.2 map.entries).append_left rest
      exact (ih (map.insert pair.1 pair.2)).trans (placed.trans List.perm_middle)

/-- Under its key an inserted value is the last one, other keys stay as they are. -/
theorem insertEntry_filter (key : κ) (value : ν) (other : κ) {entries : List (κ × ν)}
    (sorted : entries.Pairwise fun first second => first.1 ≤ second.1) :
    (insertEntry key value entries).filter (fun entry => entry.1 = other) =
      entries.filter (fun entry => entry.1 = other) ++ if key =
        other then [(key, value)] else [] := by
  induction entries with
  | nil => by_cases same : key = other <;> simp [insertEntry, same]
  | cons head rest ih =>
      obtain ⟨headLeast, restSorted⟩ := List.pairwise_cons.mp sorted
      by_cases before : head.1 ≤ key
      · simp only [insertEntry, before, if_true, List.filter_cons, ih restSorted]
        by_cases kept : head.1 = other <;> simp [kept]
      · have none : key = other → (head :: rest).filter (fun entry => entry.1 = other) = [] := by
          rintro rfl
          refine List.filter_eq_nil_iff.mpr fun entry member => ?_
          have above : key < entry.1 := by
            rcases List.mem_cons.mp member with rfl | member
            · exact not_le.mp before
            · exact (not_le.mp before).trans_le (headLeast entry member)
          simpa using above.ne'
        simp only [insertEntry, before, if_false]
        by_cases same : key = other
        · rw [List.filter_cons_of_pos (by simpa using same), none same]
          simp [same]
        · rw [List.filter_cons_of_neg (by simpa using same)]
          simp [same]

/-- An insertion appends to the value list of its own key. -/
theorem equalRange_insert (map : Multimap κ ν) (key other : κ) (value : ν) :
    (map.insert key value).equalRange other =
      map.equalRange other ++ if key = other then [value] else [] := by
  change ((insertEntry key value map.entries).filter _).map _ = _
  rw [insertEntry_filter key value other map.sorted, List.map_append]
  by_cases same : key = other <;> simp [equalRange, same]

/-- The values of a key are followed by those that the list has for it. -/
theorem equalRange_insertAll (pairs : List (κ × ν)) (map : Multimap κ ν) (key : κ) :
    (map.insertAll pairs).equalRange key =
      map.equalRange key ++ (pairs.filter fun pair => pair.1 = key).map Prod.snd := by
  induction pairs generalizing map with
  | nil => simp [insertAll]
  | cons pair rest ih =>
      change ((map.insert pair.1 pair.2).insertAll rest).equalRange key = _
      rw [ih, equalRange_insert, List.append_assoc]
      by_cases same : pair.1 = key <;> simp [same]

/-- An insertion for each item of a list, as a loop. -/
theorem insertAll_map {α : Type} (items : List α) (key : α → κ) (value : α → ν)
    (map : Multimap κ ν) :
    map.insertAll (items.map fun item => (key item, value item)) =
      items.foldl (fun result item => result.insert (key item) (value item)) map :=
  List.foldl_map

/-- Inserting the groups one after the other inserts their concatenation. -/
theorem insertAll_flatMap {α : Type} (items : List α) (pairs : α → List (κ × ν))
    (map : Multimap κ ν) :
    items.foldl (fun result item => result.insertAll (pairs item)) map =
      map.insertAll (items.flatMap pairs) := by
  induction items generalizing map with
  | nil => rfl
  | cons item items ih =>
      rw [List.foldl_cons, ih, List.flatMap_cons]
      exact List.foldl_append.symm

/-- Two key-ordered lists with the same entries under every key coincide. -/
theorem eq_of_filter_eq {left right : List (κ × ν)}
    (leftSorted : left.Pairwise fun first second => first.1 ≤ second.1)
    (rightSorted : right.Pairwise fun first second => first.1 ≤ second.1)
    (same : ∀ key, left.filter (fun entry => entry.1 = key) =
      right.filter (fun entry => entry.1 = key)) : left = right := by
  induction left generalizing right with
  | nil =>
      cases right with
      | nil => rfl
      | cons head rest =>
          have impossible := same head.1
          rw [List.filter_cons_of_pos (by simp)] at impossible
          cases impossible
  | cons head rest ih =>
      obtain ⟨headLeast, restSorted⟩ := List.pairwise_cons.mp leftSorted
      cases right with
      | nil =>
          have impossible := same head.1
          rw [List.filter_cons_of_pos (by simp)] at impossible
          cases impossible
      | cons head' rest' =>
          obtain ⟨headLeast', restSorted'⟩ := List.pairwise_cons.mp rightSorted
          have inRight : head ∈ head' :: rest' := by
            have kept : head ∈ (head :: rest).filter fun entry => entry.1 = head.1 := by simp
            rw [same] at kept
            exact (List.mem_filter.mp kept).1
          have inLeft : head' ∈ head :: rest := by
            have kept : head' ∈ (head' :: rest').filter fun entry => entry.1 = head'.1 := by simp
            rw [← same] at kept
            exact (List.mem_filter.mp kept).1
          have sameKey : head.1 = head'.1 := by
            refine le_antisymm ?_ ?_
            · rcases List.mem_cons.mp inLeft with equal | member
              · exact (congrArg Prod.fst equal).ge
              · exact headLeast _ member
            · rcases List.mem_cons.mp inRight with equal | member
              · exact (congrArg Prod.fst equal).ge
              · exact headLeast' _ member
          have sameHead : head = head' := by
            have first := same head.1
            rw [List.filter_cons_of_pos (by simp),
              List.filter_cons_of_pos (by simpa using sameKey.symm)] at first
            exact (List.cons.inj first).1
          subst sameHead
          refine congrArg (head :: ·) (ih restSorted restSorted' fun key => ?_)
          have filtered := same key
          by_cases kept : head.1 = key
          · rw [List.filter_cons_of_pos (by simpa using kept),
              List.filter_cons_of_pos (by simpa using kept)] at filtered
            exact (List.cons.inj filtered).2
          · rwa [List.filter_cons_of_neg (by simpa using kept),
              List.filter_cons_of_neg (by simpa using kept)] at filtered

/-- The entries of a key are its values with the key beside them. -/
theorem filter_eq_equalRange (map : Multimap κ ν) (key : κ) :
    map.entries.filter (fun entry => entry.1 = key) =
      (map.equalRange key).map fun value => (key, value) := by
  rw [equalRange, List.map_map]
  conv_lhs => rw [← List.map_id (map.entries.filter fun entry => entry.1 = key)]
  refine List.map_congr_left fun entry member => ?_
  have sameKey : entry.1 = key := by simpa using (List.mem_filter.mp member).2
  exact Prod.ext sameKey rfl

/-- A value of a key is an entry of the map. -/
theorem mem_equalRange {map : Multimap κ ν} {key : κ} {value : ν} :
    value ∈ map.equalRange key ↔ (key, value) ∈ map.entries := by
  have grouped : value ∈ map.equalRange key ↔
      (key, value) ∈ map.entries.filter fun entry => entry.1 = key := by
    rw [filter_eq_equalRange]
    simp
  rw [grouped, List.mem_filter]
  simp

/-- A multimap is determined by the value lists of its keys. -/
theorem ext_equalRange {left right : Multimap κ ν}
    (same : ∀ key, left.equalRange key = right.equalRange key) : left = right := by
  refine ext (eq_of_filter_eq left.sorted right.sorted fun key => ?_)
  rw [filter_eq_equalRange, filter_eq_equalRange, same]

/-- Pairs may be selected by their keys before or after they are inserted. -/
theorem insertAll_filter (pairs : List (κ × ν)) (keep : κ → Bool) :
    (empty.insertAll pairs).entries.filter (fun entry => keep entry.1) =
      (empty.insertAll (pairs.filter fun entry => keep entry.1)).entries := by
  refine eq_of_filter_eq ((empty.insertAll pairs).sorted.filter _)
    (empty.insertAll (pairs.filter fun entry => keep entry.1)).sorted fun key => ?_
  have swap : ∀ entries : List (κ × ν),
      (entries.filter fun entry => keep entry.1).filter (fun entry => entry.1 = key) =
        if keep key then entries.filter (fun entry => entry.1 = key) else [] := by
    intro entries
    rw [List.filter_filter]
    split
    · next kept =>
        refine List.filter_congr fun entry _ => ?_
        by_cases same : entry.1 = key <;> simp [same, kept]
    · next dropped =>
        refine List.filter_eq_nil_iff.mpr fun entry _ selected => dropped ?_
        rw [Bool.and_eq_true, decide_eq_true_eq] at selected
        rw [← selected.1]
        exact selected.2
  rw [swap, filter_eq_equalRange, filter_eq_equalRange, equalRange_insertAll, equalRange_insertAll,
    swap]
  split <;> rfl

/-- The pairs of one key stay in the order in which they are inserted. -/
theorem filter_insertAll {pairs : List (κ × ν)} {keep : κ × ν → Bool} {key : κ}
    (ofKey : ∀ pair ∈ pairs, keep pair → pair.1 = key) :
    (empty.insertAll pairs).entries.filter keep = pairs.filter keep := by
  have narrowed : ∀ entries : List (κ × ν), (∀ entry ∈ entries, keep entry → entry.1 = key) →
      entries.filter keep = (entries.filter fun entry => entry.1 = key).filter keep := by
    intro entries ofKey
    rw [List.filter_filter]
    refine List.filter_congr fun entry member => ?_
    by_cases kept : keep entry
    · simp [kept, ofKey entry member kept]
    · simp [kept]
  have inserted : ∀ entry ∈ (empty.insertAll pairs).entries, keep entry → entry.1 = key := by
    intro entry member
    apply ofKey entry
    simpa [empty] using (insertAll_perm pairs empty).mem_iff.mp member
  have grouped :
      ((pairs.filter fun entry => entry.1 = key).map Prod.snd).map (fun value => (key, value)) =
      pairs.filter fun entry => entry.1 = key := by
    rw [List.map_map]
    conv_rhs => rw [← List.map_id (pairs.filter fun entry => entry.1 = key)]
    refine List.map_congr_left fun entry member => ?_
    have sameKey : entry.1 = key := by simpa using (List.mem_filter.mp member).2
    exact Prod.ext sameKey.symm rfl
  rw [narrowed _ inserted, narrowed pairs ofKey, filter_eq_equalRange, equalRange_insertAll,
    equalRange_empty, List.nil_append, grouped]

/-- Inserting the entries of a multimap into the empty one rebuilds it. -/
theorem insertAll_entries (map : Multimap κ ν) : empty.insertAll map.entries = map := by
  refine ext_equalRange fun key => ?_
  rw [equalRange_insertAll]
  rfl

/-- A key has a value, and what has a value is a key. -/
theorem mem_keys {map : Multimap κ ν} {key : κ} :
    key ∈ map.keys ↔ ∃ value, (key, value) ∈ map.entries := by
  simp [keys]

/-- The keys stand in order. -/
theorem keys_sorted (map : Multimap κ ν) : map.keys.Pairwise (· ≤ ·) :=
  (List.pairwise_map.mpr map.sorted).sublist (List.dedup_sublist _)

theorem keys_nodup (map : Multimap κ ν) : map.keys.Nodup := List.nodup_dedup _

/-- What is no key has no values. -/
theorem equalRange_eq_nil {map : Multimap κ ν} {key : κ} (absent : key ∉ map.keys) :
    map.equalRange key = [] := by
  refine List.map_eq_nil_iff.mpr (List.filter_eq_nil_iff.mpr fun entry member => ?_)
  intro same
  have sameKey : entry.1 = key := by simpa using same
  exact absent (mem_keys.mpr ⟨entry.2, sameKey ▸ member⟩)

/-- The entries are the keys' value lists laid out in key order. -/
theorem entries_eq_flatMap_keys (map : Multimap κ ν) :
    map.entries = map.keys.flatMap fun key => (map.equalRange key).map fun value =>
      (key, value) := by
  have grouped : ∀ keys : List κ, keys.Pairwise (· ≤ ·) →
      (keys.flatMap fun key => (map.equalRange key).map fun value => (key, value)).Pairwise
        fun first second => first.1 ≤ second.1 := by
    intro keys ordered
    refine List.pairwise_flatMap.mpr ⟨fun key _ => ?_, ordered.imp fun below => ?_⟩
    · exact List.pairwise_map.mpr (List.pairwise_of_forall fun _ _ => le_rfl)
    · intro first inFirst second inSecond
      obtain ⟨_, _, rfl⟩ := List.mem_map.mp inFirst
      obtain ⟨_, _, rfl⟩ := List.mem_map.mp inSecond
      exact below
  have restricted : ∀ (keys : List κ) (key : κ), keys.Nodup →
      (keys.flatMap fun key => (map.equalRange key).map fun value => (key, value)).filter
        (fun entry => entry.1 = key) =
          if key ∈ keys then (map.equalRange key).map fun value => (key, value) else [] := by
    intro keys key distinct
    induction keys with
    | nil => simp
    | cons head rest ih =>
        obtain ⟨fresh, distinct⟩ := List.nodup_cons.mp distinct
        rw [List.flatMap_cons, List.filter_append, ih distinct, List.filter_map]
        by_cases same : head = key
        · subst same
          simp [fresh, Function.comp_def]
        · have other : key ≠ head := Ne.symm same
          simp [same, other, Function.comp_def]
  refine eq_of_filter_eq map.sorted (grouped _ map.keys_sorted) fun key => ?_
  rw [restricted _ key map.keys_nodup, filter_eq_equalRange]
  by_cases present : key ∈ map.keys
  · rw [if_pos present]
  · rw [if_neg present, equalRange_eq_nil present, List.map_nil]

/-! ### Erasing -/

/-- Drop every entry of each of the keys. -/
def eraseAll (keys : List κ) (map : Multimap κ ν) : Multimap κ ν :=
  keys.foldl (fun result key => result.erase key) map

/-- An erased key has no values, the others keep theirs. -/
@[simp] theorem equalRange_erase (map : Multimap κ ν) (key other : κ) :
    (map.erase key).equalRange other = if other = key then [] else map.equalRange other := by
  change ((map.entries.filter _).filter _).map _ = _
  rw [List.filter_filter]
  split
  · next same =>
      refine List.map_eq_nil_iff.mpr (List.filter_eq_nil_iff.mpr fun entry _ => ?_)
      subst same
      simp
  · next distinct =>
      refine congrArg (List.map Prod.snd) (List.filter_congr fun entry _ => ?_)
      by_cases same : entry.1 = other
      · simp [same, distinct]
      · simp [same]

/-- The entries that stay when a list of keys is erased. -/
theorem entries_eraseAll (keys : List κ) (map : Multimap κ ν) :
    (map.eraseAll keys).entries = map.entries.filter fun entry => entry.1 ∉ keys := by
  induction keys generalizing map with
  | nil => simp [eraseAll]
  | cons key keys ih =>
      change ((map.erase key).eraseAll keys).entries = _
      rw [ih]
      change (map.entries.filter _).filter _ = _
      rw [List.filter_filter]
      refine List.filter_congr fun entry _ => ?_
      by_cases same : entry.1 = key <;> simp [same]

/-- An entry stays if its key is not one of the erased. -/
theorem mem_eraseAll {keys : List κ} {map : Multimap κ ν} {entry : κ × ν} :
    entry ∈ (map.eraseAll keys).entries ↔ entry ∈ map.entries ∧ entry.1 ∉ keys := by
  rw [entries_eraseAll, List.mem_filter, decide_eq_true_eq]

/-- The erased keys have no values, the others keep theirs. -/
@[simp] theorem equalRange_eraseAll (keys : List κ) (map : Multimap κ ν) (key : κ) :
    (map.eraseAll keys).equalRange key = if key ∈ keys then [] else map.equalRange key := by
  induction keys generalizing map with
  | nil => simp [eraseAll]
  | cons first keys ih =>
      change ((map.erase first).eraseAll keys).equalRange key = _
      rw [ih, equalRange_erase]
      by_cases same : key = first <;> simp [same]

/-- Keys that are gone are not erased again. -/
@[simp] theorem eraseAll_eraseAll (keys : List κ) (map : Multimap κ ν) :
    (map.eraseAll keys).eraseAll keys = map.eraseAll keys := by
  refine ext_equalRange fun key => ?_
  rw [equalRange_eraseAll, equalRange_eraseAll]
  split <;> rfl

/-- An insertion is undone when its key is erased. -/
theorem eraseAll_insert {keys : List κ} {key : κ} (erased : key ∈ keys) (value : ν)
    (map : Multimap κ ν) : (map.insert key value).eraseAll keys = map.eraseAll keys := by
  refine ext_equalRange fun other => ?_
  rw [equalRange_eraseAll, equalRange_eraseAll, equalRange_insert]
  by_cases gone : other ∈ keys
  · rw [if_pos gone, if_pos gone]
  · have distinct : key ≠ other := fun same => gone (same ▸ erased)
    rw [if_neg gone, if_neg gone, if_neg distinct, List.append_nil]

/-- Erase a key and insert it with one value. -/
def replace (key : κ) (value : ν) (map : Multimap κ ν) : Multimap κ ν :=
  (map.erase key).insert key value

/-- The replaced key has one value, the others keep theirs. -/
@[simp] theorem equalRange_replace (map : Multimap κ ν) (key other : κ) (value : ν) :
    (map.replace key value).equalRange other =
      if other = key then [value] else map.equalRange other := by
  rw [replace, equalRange_insert, equalRange_erase]
  by_cases same : other = key
  · simp [same]
  · simp [same, Ne.symm same]

/-- A replacement is kept when other keys are erased. -/
theorem eraseAll_replace {keys : List κ} {key : κ} (kept : key ∉ keys) (value : ν)
    (map : Multimap κ ν) :
    (map.replace key value).eraseAll keys = (map.eraseAll keys).replace key value := by
  refine ext_equalRange fun other => ?_
  simp only [equalRange_eraseAll, equalRange_replace]
  by_cases same : other = key
  · rw [if_pos same, if_neg (same ▸ kept), if_pos same]
  · rw [if_neg same, if_neg same]

/-- A replacement and an insertion under another key change places. -/
theorem replace_insert {key other : κ} (distinct : other ≠ key) (value inserted : ν)
    (map : Multimap κ ν) :
    (map.insert other inserted).replace key value =
    (map.replace key value).insert other inserted := by
  refine ext_equalRange fun name => ?_
  simp only [equalRange_insert, equalRange_replace]
  by_cases same : name = key
  · rw [if_pos same, if_pos same, if_neg (same ▸ distinct), List.append_nil]
  · rw [if_neg same, if_neg same]

/-- The last of two replacements of a key counts. -/
@[simp] theorem replace_replace (map : Multimap κ ν) (key : κ) (value later : ν) :
    (map.replace key value).replace key later = map.replace key later := by
  refine ext_equalRange fun other => ?_
  rw [equalRange_replace, equalRange_replace, equalRange_replace]
  split <;> rfl

/-- Replacing a key changes nothing exactly when the value stands there alone. -/
theorem replace_eq_self {key : κ} {value : ν} {map : Multimap κ ν} :
    map.replace key value = map ↔ map.equalRange key = [value] := by
  constructor
  · intro same
    rw [← same, equalRange_replace, if_pos rfl]
  · intro alone
    refine ext_equalRange fun other => ?_
    rw [equalRange_replace]
    split
    · next same => rw [same, alone]
    · rfl

/-- Replace one key after the other. -/
def replaceAll (pairs : List (κ × ν)) (map : Multimap κ ν) : Multimap κ ν :=
  pairs.foldl (fun result pair => result.replace pair.1 pair.2) map

theorem insertAll_append (pairs more : List (κ × ν)) (map : Multimap κ ν) :
    map.insertAll (pairs ++ more) = (map.insertAll pairs).insertAll more := List.foldl_append

theorem eraseAll_append (keys more : List κ) (map : Multimap κ ν) :
    map.eraseAll (keys ++ more) = (map.eraseAll keys).eraseAll more := List.foldl_append

/-- Insertions under keys that are erased afterwards leave nothing. -/
theorem eraseAll_insertAll {keys : List κ} {pairs : List (κ × ν)}
    (erased : ∀ pair ∈ pairs, pair.1 ∈ keys) (map : Multimap κ ν) :
    (map.insertAll pairs).eraseAll keys = map.eraseAll keys := by
  induction pairs generalizing map with
  | nil => rfl
  | cons pair pairs ih =>
      obtain ⟨first, rest⟩ := List.forall_mem_cons.mp erased
      change ((map.insert pair.1 pair.2).insertAll pairs).eraseAll keys = _
      rw [ih rest, eraseAll_insert first]

/-- Insertions under other keys can be made after a key is erased. -/
theorem erase_insertAll {key : κ} {pairs : List (κ × ν)} (kept : ∀ pair ∈ pairs, pair.1 ≠ key)
    (map : Multimap κ ν) : (map.insertAll pairs).erase key = (map.erase key).insertAll pairs := by
  refine ext_equalRange fun other => ?_
  rw [equalRange_erase, equalRange_insertAll, equalRange_insertAll, equalRange_erase]
  by_cases same : other = key
  · subst same
    have none : pairs.filter (fun pair => pair.1 = other) = [] :=
      List.filter_eq_nil_iff.mpr fun pair member equal => kept pair member (of_decide_eq_true equal)
    rw [if_pos rfl, if_pos rfl, none]
    rfl
  · rw [if_neg same, if_neg same]

/-- Replacing distinct keys one after the other erases them all and inserts them anew. -/
theorem replaceAll_eq {pairs : List (κ × ν)} (distinct : (pairs.map Prod.fst).Nodup)
    (map : Multimap κ ν) :
    map.replaceAll pairs = (map.eraseAll (pairs.map Prod.fst)).insertAll pairs := by
  induction pairs using List.reverseRecOn with
  | nil => rfl
  | append_singleton pairs pair ih =>
      rw [List.map_append, List.nodup_append] at distinct
      have fresh : ∀ earlier ∈ pairs, earlier.1 ≠ pair.1 := fun earlier member =>
        distinct.2.2 earlier.1 (List.mem_map_of_mem member) pair.1 List.mem_cons_self
      rw [replaceAll, List.foldl_append, List.map_append, eraseAll_append, insertAll_append]
      change ((map.replaceAll pairs).erase pair.1).insert pair.1 pair.2 = _
      rw [ih distinct.1, erase_insertAll fresh]
      rfl

/-- What an insertion adds can be taken off again. -/
theorem insert_cancel {key : κ} {value : ν} {left right : Multimap κ ν} :
    left.insert key value = right.insert key value ↔ left = right := by
  constructor
  · intro same
    refine ext_equalRange fun other => ?_
    have range := congrArg (fun map => map.equalRange other) same
    simp only [equalRange_insert] at range
    exact List.append_cancel_right range
  · exact congrArg (insert key value)

/-! ### Changing the values -/

/-- Apply a function to every value. -/
def mapValues {μ : Type} (change : ν → μ) (map : Multimap κ ν) : Multimap κ μ :=
  ⟨map.entries.map fun entry => (entry.1, change entry.2), List.pairwise_map.mpr map.sorted⟩

/-- The keys stay when the values are changed. -/
@[simp] theorem keys_mapValues {μ : Type} (change : ν → μ) (map : Multimap κ ν) :
    (map.mapValues change).keys = map.keys := by
  simp only [keys, mapValues, List.map_map]
  rfl

/-- Every value of a key is changed. -/
@[simp] theorem equalRange_mapValues {μ : Type} (change : ν → μ) (map : Multimap κ ν) (key : κ) :
    (map.mapValues change).equalRange key = (map.equalRange key).map change := by
  simp only [equalRange, mapValues, List.filter_map, List.map_map]
  rfl

end Multimap

end SmartMetWfs.Foundation
