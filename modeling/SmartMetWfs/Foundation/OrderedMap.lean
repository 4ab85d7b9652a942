import SmartMetWfs.Foundation.Multimap

/-!
# Ordered maps

A map keeps at most one entry for a key, in strictly ascending key order. Looking
a key up, assigning it and erasing it are described by the entries they show; two
maps that answer every lookup alike are equal. A set is a map to the unit type.
-/

namespace SmartMetWfs.Foundation

/-- An ordered container of key-value pairs with distinct keys. -/
structure OrderedMap (κ ν : Type) [LinearOrder κ] where
  entries : List (κ × ν)
  sorted : entries.Pairwise fun first second => first.1 < second.1

namespace OrderedMap

variable {κ ν : Type} [LinearOrder κ]

/-- A map is given by its entries. -/
theorem ext {left right : OrderedMap κ ν} (same : left.entries = right.entries) : left = right := by
  cases left
  cases right
  cases same
  rfl

instance [DecidableEq ν] : DecidableEq (OrderedMap κ ν) := fun left right =>
  decidable_of_iff (left.entries = right.entries) ⟨ext, fun same => same ▸ rfl⟩

/-- The map without entries. -/
def empty : OrderedMap κ ν := ⟨[], .nil⟩

/-- The keys of the entries, in order. -/
def keys (map : OrderedMap κ ν) : List κ := map.entries.map Prod.fst

/-- The value of a key. -/
def find (map : OrderedMap κ ν) (key : κ) : Option ν :=
  (map.entries.find? fun entry => entry.1 = key).map Prod.snd

/-- Drop the entry of a key. -/
def erase (key : κ) (map : OrderedMap κ ν) : OrderedMap κ ν :=
  ⟨map.entries.filter fun entry => entry.1 ≠ key, map.sorted.filter _⟩

/-- The insertion of a new key keeps the order of the keys strict. -/
theorem insertEntry_strict (key : κ) (value : ν) {entries : List (κ × ν)}
    (sorted : entries.Pairwise fun first second => first.1 < second.1)
    (fresh : ∀ entry ∈ entries, entry.1 ≠ key) :
    (Multimap.insertEntry key value entries).Pairwise fun first second => first.1 < second.1 := by
  induction entries with
  | nil => exact List.pairwise_singleton _ _
  | cons head rest ih =>
      obtain ⟨headLeast, restSorted⟩ := List.pairwise_cons.mp sorted
      have freshHead := fresh head List.mem_cons_self
      have freshRest : ∀ entry ∈ rest, entry.1 ≠ key :=
        fun entry member => fresh entry (List.mem_cons_of_mem _ member)
      unfold Multimap.insertEntry
      split
      · next before =>
          refine List.pairwise_cons.mpr ⟨fun entry member => ?_, ih restSorted freshRest⟩
          rcases Multimap.mem_insertEntry.mp member with rfl | old
          · exact lt_of_le_of_ne before freshHead
          · exact headLeast entry old
      · next after =>
          have below : key < head.1 := not_le.mp after
          refine List.pairwise_cons.mpr ⟨fun entry member => ?_, sorted⟩
          rcases List.mem_cons.mp member with rfl | old
          · exact below
          · exact below.trans (headLeast entry old)

/-- `map[key] = value`: the entry of the key is replaced or added. -/
def set (key : κ) (value : ν) (map : OrderedMap κ ν) : OrderedMap κ ν where
  entries := Multimap.insertEntry key value (map.erase key).entries
  sorted := insertEntry_strict key value (map.erase key).sorted fun entry member => by
    simpa using (List.mem_filter.mp member).2

/-- An erased key is gone with its entry, the others stay. -/
theorem mem_erase {map : OrderedMap κ ν} {key : κ} {entry : κ × ν} :
    entry ∈ (map.erase key).entries ↔ entry ∈ map.entries ∧ entry.1 ≠ key := by
  simp [erase]

/-- After a value is set its key has that entry and no other. -/
theorem mem_set {map : OrderedMap κ ν} {key : κ} {value : ν} {entry : κ × ν} :
    entry ∈ (map.set key value).entries ↔
      entry = (key, value) ∨ (entry ∈ map.entries ∧ entry.1 ≠ key) := by
  rw [← mem_erase]
  exact Multimap.mem_insertEntry

/-- A key has one entry at most. -/
theorem value_unique {map : OrderedMap κ ν} {key : κ} {first second : ν}
    (memFirst : (key, first) ∈ map.entries) (memSecond : (key, second) ∈ map.entries) :
    first = second := by
  obtain ⟨entries, sorted⟩ := map
  induction entries with
  | nil => cases memFirst
  | cons head rest ih =>
      obtain ⟨headLeast, restSorted⟩ := List.pairwise_cons.mp sorted
      rcases List.mem_cons.mp memFirst with rfl | firstInRest
      · rcases List.mem_cons.mp memSecond with same | secondInRest
        · exact (Prod.mk.inj same).2.symm
        · exact absurd (headLeast _ secondInRest) (lt_irrefl _)
      · rcases List.mem_cons.mp memSecond with rfl | secondInRest
        · exact absurd (headLeast _ firstInRest) (lt_irrefl _)
        · exact ih restSorted firstInRest secondInRest

/-- What is found under a key is its entry. -/
theorem find_eq_some {map : OrderedMap κ ν} {key : κ} {value : ν} :
    map.find key = some value ↔ (key, value) ∈ map.entries := by
  constructor
  · intro found
    obtain ⟨entry, located, rfl⟩ := Option.map_eq_some_iff.mp found
    have sameKey : entry.1 = key := by simpa using List.find?_some located
    rw [← sameKey]
    exact List.mem_of_find?_eq_some located
  · intro member
    unfold find
    cases located : map.entries.find? fun entry => entry.1 = key with
    | none => simpa using List.find?_eq_none.mp located _ member
    | some entry =>
        have sameKey : entry.1 = key := by simpa using List.find?_some located
        have stored : (key, entry.2) ∈ map.entries := by
          rw [← sameKey]
          exact List.mem_of_find?_eq_some located
        exact congrArg some (value_unique stored member)

/-- Under a key there is something to find. -/
theorem mem_keys {map : OrderedMap κ ν} {key : κ} :
    key ∈ map.keys ↔ ∃ value, map.find key = some value := by
  simp only [keys, List.mem_map, find_eq_some, Prod.exists, exists_and_right, exists_eq_right]

/-- No key stands twice. -/
theorem nodup_keys (map : OrderedMap κ ν) : map.keys.Nodup :=
  List.pairwise_map.mpr (map.sorted.imp fun below => below.ne)

/-- The key that is set has the value, the others keep theirs. -/
theorem find_set (map : OrderedMap κ ν) (key other : κ) (value : ν) :
    (map.set key value).find other = if other = key then some value else map.find other := by
  refine Option.ext fun found => ?_
  rw [find_eq_some, mem_set]
  by_cases same : other = key
  · subst same
    rw [if_pos rfl]
    simp [eq_comm]
  · rw [if_neg same, find_eq_some]
    simp [same]

@[simp] theorem find_set_self (map : OrderedMap κ ν) (key : κ) (value : ν) :
    (map.set key value).find key = some value := by
  rw [find_set, if_pos rfl]

theorem find_set_ne {key other : κ} (distinct : other ≠ key) (map : OrderedMap κ ν) (value : ν) :
    (map.set key value).find other = map.find other := by
  rw [find_set, if_neg distinct]

/-- An entry above all others is the last. -/
theorem entries_set_of_greatest {map : OrderedMap κ ν} {key : κ}
    (greatest : ∀ entry ∈ map.entries, entry.1 < key) (value : ν) :
    (map.set key value).entries = map.entries ++ [(key, value)] := by
  have kept : (map.erase key).entries = map.entries :=
    List.filter_eq_self.mpr fun entry member => decide_eq_true (greatest entry member).ne
  have last : ∀ entries : List (κ × ν), (∀ entry ∈ entries, entry.1 < key) →
      Multimap.insertEntry key value entries = entries ++ [(key, value)] := by
    intro entries below
    induction entries with
    | nil => rfl
    | cons head rest ih =>
        rw [List.forall_mem_cons] at below
        rw [Multimap.insertEntry, if_pos below.1.le, ih below.2]
        rfl
  exact (congrArg _ kept).trans (last map.entries greatest)

/-- The erased key has nothing, the others keep theirs. -/
theorem find_erase (map : OrderedMap κ ν) (key other : κ) :
    (map.erase key).find other = if other = key then none else map.find other := by
  refine Option.ext fun found => ?_
  rw [find_eq_some, mem_erase]
  by_cases same : other = key
  · rw [if_pos same]
    simp [same]
  · rw [if_neg same, find_eq_some]
    simp [same]

@[simp] theorem find_erase_self (map : OrderedMap κ ν) (key : κ) :
    (map.erase key).find key = none := by
  rw [find_erase, if_pos rfl]

theorem find_erase_ne {key other : κ} (distinct : other ≠ key) (map : OrderedMap κ ν) :
    (map.erase key).find other = map.find other := by
  rw [find_erase, if_neg distinct]

/-- `map.emplace(key, value)`: an entry of the key stays. -/
def emplace (key : κ) (value : ν) (map : OrderedMap κ ν) : OrderedMap κ ν :=
  if (map.find key).isSome then map else map.set key value

/-- A value is placed if its key has none yet. -/
theorem mem_emplace {map : OrderedMap κ ν} {key : κ} {value : ν} {entry : κ × ν} :
    entry ∈ (map.emplace key value).entries ↔
      entry ∈ map.entries ∨ (entry = (key, value) ∧ map.find key = none) := by
  unfold emplace
  cases found : map.find key with
  | some old =>
      rw [Option.isSome_some, if_pos rfl]
      exact ⟨.inl, fun either => either.elim id fun added => nomatch added.2⟩
  | none =>
      have absent : ∀ entry ∈ map.entries, entry.1 ≠ key := by
        rintro ⟨_, old⟩ member rfl
        rw [find_eq_some.mpr member] at found
        cases found
      rw [Option.isSome_none, if_neg Bool.false_ne_true, mem_set]
      constructor
      · rintro (added | ⟨member, _⟩)
        · exact .inr ⟨added, rfl⟩
        · exact .inl member
      · rintro (member | ⟨added, _⟩)
        · exact .inr ⟨member, absent entry member⟩
        · exact .inl added

/-- The value that is there already wins. -/
theorem find_emplace (map : OrderedMap κ ν) (key other : κ) (value : ν) :
    (map.emplace key value).find other =
      (map.find other).or (if other = key then some value else none) := by
  unfold emplace
  by_cases same : other = key
  · subst same
    rw [if_pos rfl]
    cases found : map.find other with
    | none => rw [Option.isSome_none, if_neg Bool.false_ne_true, find_set_self, Option.none_or]
    | some old => rw [Option.isSome_some, if_pos rfl, found, Option.some_or]
  · rw [if_neg same, Option.or_none]
    split
    · rfl
    · exact find_set_ne same map value

/-- A map is determined by its lookups. -/
theorem ext_find {left right : OrderedMap κ ν}
    (same : ∀ key, left.find key = right.find key) : left = right := by
  apply ext
  have members : ∀ entry, entry ∈ left.entries ↔ entry ∈ right.entries := fun entry => by
    rw [← find_eq_some, ← find_eq_some, same]
  have permuted : left.entries.Perm right.entries :=
    (List.perm_ext_iff_of_nodup (left.sorted.imp fun below same => absurd (same ▸ below)
      (lt_irrefl _)) (right.sorted.imp fun below same => absurd (same ▸ below)
        (lt_irrefl _))).mpr members
  exact permuted.eq_of_pairwise (fun first second _ _ below above => absurd (below.trans above)
    (lt_irrefl _)) left.sorted right.sorted

/-- The last entry may be replaced. -/
theorem entries_set_of_last {map : OrderedMap κ ν} {front : List (κ × ν)} {key : κ} {old : ν}
    (entries : map.entries = front ++ [(key, old)]) (value : ν) :
    (map.set key value).entries = front ++ [(key, value)] := by
  have sorted := map.sorted
  rw [entries] at sorted
  have below : ∀ entry ∈ front, entry.1 < key := fun entry member =>
    (List.pairwise_append.mp sorted).2.2 entry member _ List.mem_cons_self
  have erased : (map.erase key).entries = front := by
    have kept : front.filter (fun entry => entry.1 ≠ key) = front :=
      List.filter_eq_self.mpr fun entry member => decide_eq_true (below entry member).ne
    change map.entries.filter (fun entry => entry.1 ≠ key) = front
    rw [entries, List.filter_append, kept, List.filter_cons_of_neg (by simp), List.filter_nil,
      List.append_nil]
  have again : map.set key value = (map.erase key).set key value := by
    refine ext_find fun other => ?_
    rw [find_set, find_set, find_erase]
    by_cases same : other = key
    · rw [if_pos same, if_pos same]
    · rw [if_neg same, if_neg same, if_neg same]
  rw [again, entries_set_of_greatest (erased ▸ below), erased]

/-- The entry of a key stands between entries of other keys. -/
theorem exists_split {map : OrderedMap κ ν} {key : κ} {value : ν}
    (found : map.find key = some value) :
    ∃ before after, map.entries = before ++ (key, value) :: after ∧
      ∀ entry ∈ before ++ after, entry.1 ≠ key := by
  obtain ⟨before, after, split⟩ := List.append_of_mem (find_eq_some.mp found)
  refine ⟨before, after, split, fun entry member same => ?_⟩
  have sorted := map.sorted
  rw [split] at sorted
  obtain ⟨_, sortedAfter, below⟩ := List.pairwise_append.mp sorted
  rcases List.mem_append.mp member with inBefore | inAfter
  · exact absurd same (below entry inBefore _ List.mem_cons_self).ne
  · exact absurd same ((List.pairwise_cons.mp sortedAfter).1 entry inAfter).ne'

/-- Only the entry of one key contributes if the others contribute nothing. -/
theorem flatMap_of_others_nil {α : Type} {map : OrderedMap κ ν} {contribute : κ × ν → List α}
    {key : κ}
    {value : ν} (found : map.find key = some value)
    (others : ∀ entry ∈ map.entries, entry.1 ≠ key → contribute entry = []) :
    map.entries.flatMap contribute = contribute (key, value) := by
  obtain ⟨before, after, split, distinct⟩ := exists_split found
  rw [split] at others ⊢
  have none : ∀ part : List (κ × ν), (∀ entry ∈ part, entry ∈ before ++ after) →
      part.flatMap contribute = [] := by
    intro part inside
    rw [List.flatMap_eq_nil_iff]
    intro entry member
    refine others entry ?_ (distinct entry (inside entry member))
    rcases List.mem_append.mp (inside entry member) with inBefore | inAfter
    · exact List.mem_append_left _ inBefore
    · exact List.mem_append_right _ (List.mem_cons_of_mem _ inAfter)
  rw [List.flatMap_append, List.flatMap_cons, none before fun _ => List.mem_append_left _,
    none after fun _ => List.mem_append_right _, List.nil_append, List.append_nil]

/-- Two entries contribute both. -/
theorem length_flatMap_of_two {α : Type} {map : OrderedMap κ ν} (contribute : κ × ν → List α)
    {key other : κ} {value otherValue : ν} (found : map.find key = some value)
    (foundOther : map.find other = some otherValue) (distinct : key ≠ other) :
    (contribute (key, value)).length + (contribute (other, otherValue)).length ≤
      (map.entries.flatMap contribute).length := by
  obtain ⟨before, after, split, _⟩ := exists_split found
  have member := find_eq_some.mp foundOther
  have part : ∀ part : List (κ × ν), (other, otherValue) ∈ part →
      (contribute (other, otherValue)).length ≤ (part.flatMap contribute).length := by
    intro part inside
    rw [List.flatMap_def]
    exact (List.sublist_flatten_of_mem (List.mem_map_of_mem inside)).length_le
  rw [split] at member ⊢
  rw [List.flatMap_append, List.flatMap_cons, List.length_append, List.length_append]
  rcases List.mem_append.mp member with inBefore | inRest
  · have bound := part before inBefore
    omega
  · rcases List.mem_cons.mp inRest with same | inAfter
    · exact absurd (congrArg Prod.fst same).symm distinct
    · have bound := part after inAfter
      omega

/-- Operations on distinct keys can be exchanged. -/
theorem erase_set_comm {key other : κ} (distinct : key ≠ other) (map : OrderedMap κ ν) (value : ν) :
    (map.set key value).erase other = (map.erase other).set key value := by
  refine ext_find fun name => ?_
  rw [find_erase, find_set, find_set, find_erase]
  by_cases isOther : name = other
  · rw [if_pos isOther, if_pos isOther, if_neg (fun isKey => distinct (isKey.symm.trans isOther))]
  · rw [if_neg isOther, if_neg isOther]

end OrderedMap

/-- An ordered container of distinct keys. -/
abbrev OrderedSet (κ : Type) [LinearOrder κ] := OrderedMap κ Unit

namespace OrderedSet

variable {κ : Type} [LinearOrder κ]

/-- A set is a map without values. -/
def insert (key : κ) (set : OrderedSet κ) : OrderedSet κ := OrderedMap.set key () set

/-- Whether a key is in the set. -/
def contains (set : OrderedSet κ) (key : κ) : Bool := (set.find key).isSome

theorem contains_iff {set : OrderedSet κ} {key : κ} :
    set.contains key = true ↔ set.find key = some () := by
  unfold contains
  rw [Option.isSome_iff_exists]
  exact ⟨fun ⟨_, found⟩ => found, fun found => ⟨(), found⟩⟩

/-- After an insertion the set has the key beside the others. -/
theorem contains_insert {set : OrderedSet κ} {key other : κ} :
    OrderedSet.contains (OrderedSet.insert key set) other = true ↔
      other = key ∨ set.contains other = true := by
  rw [contains_iff, contains_iff, insert, OrderedMap.find_set]
  by_cases same : other = key <;> simp [same]

/-- After an erasure the set has the others. -/
theorem contains_erase {set : OrderedSet κ} {key other : κ} :
    OrderedSet.contains (OrderedMap.erase key set) other = true ↔
      other ≠ key ∧ set.contains other = true := by
  rw [contains_iff, contains_iff, OrderedMap.find_erase]
  by_cases same : other = key <;> simp [same]

/-- The keys of a set are its members. -/
theorem contains_of_mem_keys {set : OrderedSet κ} {key : κ} (member : key ∈ set.keys) :
    set.contains key = true := by
  obtain ⟨_, found⟩ := OrderedMap.mem_keys.mp member
  exact contains_iff.mpr found

/-- Members and keys are the same. -/
theorem mem_keys_iff_contains {set : OrderedSet κ} {key : κ} :
    key ∈ set.keys ↔ set.contains key = true := by
  refine ⟨contains_of_mem_keys, fun contained => ?_⟩
  exact OrderedMap.mem_keys.mpr ⟨(), contains_iff.mp contained⟩

/-- The keys of a set to which a list of keys has been added. -/
theorem mem_keys_foldl_insert {keys : List κ} {set : OrderedSet κ} {key : κ} :
    key ∈ (keys.foldl (fun set key => OrderedSet.insert key set) set).keys ↔
      key ∈ keys ∨ key ∈ set.keys := by
  have inserted : ∀ (first : κ) (set : OrderedSet κ),
      key ∈ (OrderedSet.insert first set).keys ↔ key = first ∨ key ∈ set.keys := by
    intro first set
    simp only [OrderedMap.mem_keys, insert, OrderedMap.find_set]
    by_cases same : key = first <;> simp [same]
  induction keys generalizing set with
  | nil => simp
  | cons first keys ih =>
      rw [List.foldl_cons, List.mem_cons]
      exact ih.trans
        ((or_congr_right (inserted first set)).trans (or_left_comm.trans or_assoc.symm))

end OrderedSet

end SmartMetWfs.Foundation
