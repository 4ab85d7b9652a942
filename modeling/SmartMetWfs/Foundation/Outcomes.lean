import Mathlib.Algebra.GroupWithZero.Nat
import Mathlib.Algebra.Order.BigOperators.Group.List
import Mathlib.Algebra.Order.Group.Nat
import Mathlib.Data.List.Forall2
import Mathlib.Tactic.Common

/-!
# Outcomes of computations that may fail

A computation in `Except` *meets* a postcondition when it succeeds with a result that
has it, or fails in a way that is tolerated. The rules below follow the structure of a
computation.
-/

namespace SmartMetWfs.Foundation

section Meets

variable {ε α β : Type}

/-- The computation succeeds with a result as described or fails in a tolerated way. -/
def Meets (tolerated : ε → Prop) (computation : Except ε α) (post : α → Prop) : Prop :=
  match computation with
  | .ok result => post result
  | .error failure => tolerated failure

variable {tolerated : ε → Prop}

theorem Meets.ok {result : α} {post : α → Prop} (holds : post result) :
    Meets tolerated (.ok result) post := holds

theorem Meets.pure {result : α} {post : α → Prop} (holds : post result) :
    Meets tolerated (Pure.pure result) post := holds

theorem Meets.error {failure : ε} {post : α → Prop} (allowed : tolerated failure) :
    Meets tolerated (.error failure : Except ε α) post := allowed

/-- What the first computation guarantees is what the second may rely on. -/
theorem Meets.bind {computation : Except ε α} {next : α → Except ε β} {middle : α → Prop}
    {post : β → Prop} (first : Meets tolerated computation middle)
    (rest : ∀ result, middle result → Meets tolerated (next result) post) :
    Meets tolerated (computation >>= next) post := by
  cases computation with
  | error failure => exact first
  | ok result => exact rest result first

/-- A guarantee can be weakened. -/
theorem Meets.imp {computation : Except ε α} {post post' : α → Prop}
    (meets : Meets tolerated computation post) (weaker : ∀ result, post result → post' result) :
    Meets tolerated computation post' := by
  cases computation with
  | error failure => exact meets
  | ok result => exact weaker result meets

/-- A computation that succeeds has the result that is guaranteed. -/
theorem Meets.of_ok {computation : Except ε α} {result : α} {post : α → Prop}
    (meets : Meets tolerated computation post) (succeeds : computation = .ok result) :
    post result := by
  rw [succeeds] at meets
  exact meets

/-- Of a computation that may fail in any way, its result is known to be its result. -/
theorem Meets.of_eq {computation : Except ε α} :
    Meets (fun _ => True) computation fun result => computation = .ok result := by
  cases computation with
  | error failure => trivial
  | ok result => rfl

/-- A loop keeps what holds of the part of the list that is done and the state. -/
theorem Meets.foldlM {step : β → α → Except ε β} (invariant : List α → β → Prop)
    (items : List α) {start : β} (initially : invariant [] start)
    (keeps : ∀ done item rest state, items = done ++ item :: rest → invariant done state →
      Meets tolerated (step state item) (invariant (done ++ [item]))) :
    Meets tolerated (items.foldlM step start) (invariant items) := by
  have general : ∀ rest done state, items = done ++ rest → invariant done state →
      Meets tolerated (rest.foldlM step state) (invariant items) := by
    intro rest
    induction rest with
    | nil =>
        intro done state split holds
        rw [List.append_nil] at split
        rw [split]
        exact holds
    | cons item rest ih =>
        intro done state split holds
        rw [List.foldlM_cons]
        refine (keeps done item rest state split holds).bind fun after holdsAfter => ?_
        refine ih (done ++ [item]) after ?_ holdsAfter
        rw [split, List.append_assoc]
        rfl
  exact general items [] start rfl initially

/-- A loop over all items that comes to its end has dealt with each. -/
theorem Meets.mapM {step : α → Except ε β} {items : List α} {post : α → Prop}
    (each : ∀ item ∈ items, Meets tolerated (step item) fun _ => post item) :
    Meets tolerated (items.mapM step) fun _ => ∀ item ∈ items, post item := by
  induction items with
  | nil => exact Meets.pure fun _ member => nomatch member
  | cons item items ih =>
      rw [List.mapM_cons]
      refine (each item List.mem_cons_self).bind fun _ first => ?_
      refine (ih fun other member => each other (List.mem_cons_of_mem _ member)).bind fun _ rest =>
        ?_
      exact Meets.pure (List.forall_mem_cons.mpr ⟨first, rest⟩)

end Meets

/-- A computation that succeeds does so step by step. -/
theorem ok_of_bind {ε α β : Type} {computation : Except ε α} {next : α → Except ε β} {result : β}
    (ran : computation.bind next = .ok result) :
    ∃ middle, computation = .ok middle ∧ next middle = .ok result := by
  cases computation with
  | error failure => cases ran
  | ok middle => exact ⟨middle, rfl, ran⟩

/-- A changed result that succeeds was a result before. -/
theorem ok_of_map {ε α β : Type} {change : α → β} {computation : Except ε α} {result : β}
    (ran : change <$> computation = .ok result) :
    ∃ inner, computation = .ok inner ∧ change inner = result := by
  cases computation with
  | error failure => cases ran
  | ok inner => exact ⟨inner, rfl, Except.ok.inj ran⟩

/-- Another text of the error makes no success. -/
theorem ok_of_mapError {ε ε' α : Type} {change : ε → ε'} {computation : Except ε α} {result : α}
    (ran : computation.mapError change = .ok result) : computation = .ok result := by
  cases computation with
  | error failure => cases ran
  | ok other =>
      cases ran
      rfl

/-- In a loop that succeeds every step does. -/
theorem step_ok_of_foldlM {ε α β : Type} {step : β → α → Except ε β} {items : List α}
    {start after : β} (ran : items.foldlM step start = .ok after) {item : α}
    (member : item ∈ items) : ∃ state next, step state item = .ok next := by
  induction items generalizing start with
  | nil => cases member
  | cons first items ih =>
      rw [List.foldlM_cons] at ran
      obtain ⟨middle, stepped, rest⟩ := ok_of_bind ran
      rcases List.mem_cons.mp member with rfl | inRest
      · exact ⟨start, middle, stepped⟩
      · exact ih rest inRest

/-- A loop fails in the first step that does. -/
theorem foldlM_eq_error {ε α β : Type} {step : β → α → Except ε β} {items : List α} {start : β}
    {failure : ε} : items.foldlM step start = .error failure ↔
      ∃ before item after state, items = before ++ item :: after ∧
        before.foldlM step start = .ok state ∧ step state item = .error failure := by
  constructor
  · intro failed
    induction items generalizing start with
    | nil => cases failed
    | cons first items ih =>
        rw [List.foldlM_cons] at failed
        cases stepped : step start first with
        | error failure' =>
            rw [stepped] at failed
            cases failed
            exact ⟨[], first, items, start, rfl, rfl, stepped⟩
        | ok middle =>
            rw [stepped] at failed
            obtain ⟨before, item, after, state, split, ran, fails⟩ := ih failed
            refine ⟨first :: before, item, after, state, congrArg (first :: ·) split, ?_, fails⟩
            rw [List.foldlM_cons, stepped]
            exact ran
  · rintro ⟨before, item, after, state, rfl, ran, fails⟩
    rw [List.foldlM_append, ran]
    change (item :: after).foldlM step state = _
    rw [List.foldlM_cons, fails]
    rfl

/-- A loop over the indices of a list is a loop over its items. -/
theorem foldlM_range {α β : Type} {m : Type → Type} [Monad m] {items : List α}
    {step : β → α → m β} {indexed : β → Nat → m β}
    (agree : ∀ index item, items[index]? = some item →
      ∀ state, indexed state index = step state item) (state : β) :
    (List.range items.length).foldlM indexed state = items.foldlM step state := by
  induction items generalizing indexed state with
  | nil => rfl
  | cons item items ih =>
      rw [List.length_cons, List.range_succ_eq_map, List.foldlM_cons, List.foldlM_cons,
        agree 0 item rfl]
      apply congrArg
      funext next
      rw [List.foldlM_map]
      exact ih (fun index item found => agree (index + 1) item found) next

/-- Every item is read, and each to the value at its place. -/
theorem mapM_eq_some_iff {α β : Type} {read : α → Option β} {items : List α} {values : List β} :
    items.mapM read = some values ↔
      List.Forall₂ (fun item value => read item = some value) items values := by
  induction items generalizing values with
  | nil => exact ⟨fun all => Option.some.inj all ▸ .nil, fun all => by cases all; rfl⟩
  | cons item items ih =>
      rw [List.mapM_cons]
      constructor
      · intro all
        obtain ⟨value, first, rest⟩ := Option.bind_eq_some_iff.mp all
        obtain ⟨others, restAll, whole⟩ := Option.bind_eq_some_iff.mp rest
        cases whole
        exact .cons first (ih.mp restAll)
      · rintro (_ | ⟨first, rest⟩)
        rw [first, ih.mpr rest]
        rfl

/-- There are as many values as items. -/
theorem length_of_mapM {α β : Type} {read : α → Option β} {items : List α} {values : List β}
    (all : items.mapM read = some values) : values.length = items.length :=
  (mapM_eq_some_iff.mp all).length_eq.symm

/-- The items with the values that are read of them. -/
theorem forall₂_mem_of_mapM {α β : Type} {read : α → Option β} {items : List α} {values : List β}
    (all : items.mapM read = some values) :
    List.Forall₂ (fun item value => item ∈ items ∧ read item = some value) items values :=
  (List.forall₂_and_left _ _).mpr ⟨fun _ member => member, mapM_eq_some_iff.mp all⟩

/-- Numbers that are read are together at least what each of them is at least. -/
theorem sum_map_le_of_mapM {α : Type} {read : α → Option Nat} {least : α → Nat} {items : List α}
    {numbers : List Nat} (all : items.mapM read = some numbers)
    (each : ∀ item ∈ items, ∀ number, read item = some number → least item ≤ number) :
    (items.map least).sum ≤ numbers.sum := by
  apply List.Forall₂.sum_le_sum
  rw [List.forall₂_map_left_iff]
  exact (forall₂_mem_of_mapM all).imp fun item number both => each item both.1 number both.2

/-- Numbers that are bounded one by one are bounded in their sum. -/
theorem le_sum_map_of_mapM {α : Type} {read : α → Option Nat} {most : α → Nat} {items : List α}
    {numbers : List Nat} (all : items.mapM read = some numbers)
    (each : ∀ item ∈ items, ∀ number, read item = some number → number ≤ most item) :
    numbers.sum ≤ (items.map most).sum := by
  apply List.Forall₂.sum_le_sum
  apply List.Forall₂.flip
  rw [List.forall₂_map_left_iff]
  exact (forall₂_mem_of_mapM all).imp fun item number both => each item both.1 number both.2

/-- A loop that reads values which are given for its items. -/
theorem mapM_eq_some_map {ι α β : Type} {read : α → Option β} {item : ι → α} {value : ι → β}
    {indices : List ι} : (indices.map item).mapM read = some (indices.map value) ↔
      ∀ index ∈ indices, read (item index) = some (value index) := by
  induction indices with
  | nil => exact ⟨fun _ _ member => (List.not_mem_nil member).elim, fun _ => rfl⟩
  | cons index indices ih =>
      rw [List.forall_mem_cons, ← ih, List.map_cons, List.map_cons, List.mapM_cons]
      cases read (item index) with
      | none => exact ⟨nofun, fun all => nomatch all.1⟩
      | some first =>
          cases (indices.map item).mapM read with
          | none => exact ⟨nofun, fun all => nomatch all.2⟩
          | some rest =>
              change some (first :: rest) = _ ↔ _
              rw [Option.some.injEq, Option.some.injEq, Option.some.injEq, List.cons.injEq]

/-- The first result stands before those of the other items. -/
theorem ok_of_mapM_cons {ε α β : Type} {read : α → Except ε β} {item : α} {items : List α}
    {results : List β} (all : (item :: items).mapM read = .ok results) :
    ∃ result others, read item = .ok result ∧ items.mapM read = .ok others ∧
      results = result :: others := by
  rw [List.mapM_cons] at all
  obtain ⟨result, first, rest⟩ := ok_of_bind all
  obtain ⟨others, restAll, whole⟩ := ok_of_bind rest
  exact ⟨result, others, first, restAll, (Except.ok.inj whole).symm⟩

/-- Each result is that of the item at its place. -/
theorem forall₂_of_mapM {ε α β : Type} {read : α → Except ε β} {items : List α} {results : List β}
    (all : items.mapM read = .ok results) :
    List.Forall₂ (fun item result => read item = .ok result) items results := by
  induction items generalizing results with
  | nil =>
      cases all
      exact .nil
  | cons item items ih =>
      rw [List.mapM_cons] at all
      obtain ⟨result, first, rest⟩ := ok_of_bind all
      obtain ⟨others, restAll, whole⟩ := ok_of_bind rest
      cases whole
      exact .cons first (ih restAll)

/-- Where every item has a partner there is a list of partners. -/
theorem exists_forall₂ {α β : Type} {relation : α → β → Prop} {firsts : List α}
    (each : ∀ first ∈ firsts, ∃ second, relation first second) :
    ∃ seconds, List.Forall₂ relation firsts seconds := by
  induction firsts with
  | nil => exact ⟨[], .nil⟩
  | cons first firsts ih =>
      obtain ⟨first', others⟩ := List.forall_mem_cons.mp each
      obtain ⟨second, related⟩ := first'
      obtain ⟨seconds, all⟩ := ih others
      exact ⟨second :: seconds, .cons related all⟩

/-- Every item of the first list has a partner in the second. -/
theorem exists_of_mem_forall₂ {α β : Type} {relation : α → β → Prop} {firsts : List α}
    {seconds : List β} (related : List.Forall₂ relation firsts seconds) {first : α}
    (member : first ∈ firsts) : ∃ second ∈ seconds, relation first second := by
  induction related with
  | nil => cases member
  | @cons head partner rest partners isPartner _ ih =>
      rcases List.mem_cons.mp member with rfl | inRest
      · exact ⟨partner, List.mem_cons_self, isPartner⟩
      · obtain ⟨other, inPartners, isRelated⟩ := ih inRest
        exact ⟨other, List.mem_cons_of_mem _ inPartners, isRelated⟩

/-- What related items agree on holds of all on both sides. -/
theorem forall_iff_of_forall₂ {α β : Type} {related : α → β → Prop} {lefts : List α}
    {rights : List β}
    {left : α → Prop} {right : β → Prop} (all : List.Forall₂ related lefts rights)
    (agree : ∀ a ∈ lefts, ∀ b, related a b → (right b ↔ left a)) :
    (∀ b ∈ rights, right b) ↔ ∀ a ∈ lefts, left a := by
  induction all with
  | nil => exact iff_of_true nofun nofun
  | cons first _ ih =>
      rw [List.forall_mem_cons, List.forall_mem_cons, agree _ List.mem_cons_self _ first,
        ih fun a member => agree a (List.mem_cons_of_mem _ member)]

/-- A loop comes to its end if none of its rounds can fail, whatever state it starts in. -/
theorem foldlM_succeeds_iff {ε α β : Type} {step : β → α → Except ε β} {good : α → Prop}
    {items : List α} {start : β} (decides : ∀ state, ∀ item ∈ items,
      (∃ next, step state item = .ok next) ↔ good item) :
    (∃ last, items.foldlM step start = .ok last) ↔ ∀ item ∈ items, good item := by
  induction items generalizing start with
  | nil => exact ⟨fun _ _ member => (List.not_mem_nil member).elim, fun _ => ⟨start, rfl⟩⟩
  | cons item items ih =>
      rw [List.forall_mem_cons, ← decides start item List.mem_cons_self, List.foldlM_cons]
      cases step start item with
      | error failure => exact iff_of_false (fun ⟨_, ends⟩ => nomatch ends) fun ⟨⟨_, ends⟩, _⟩ =>
        nomatch ends
      | ok next =>
          rw [and_iff_right ⟨next, rfl⟩]
          exact ih fun state other member => decides state other (List.mem_cons_of_mem _ member)

/-- A loop over all items fails if one of them does. -/
theorem mapM_fails_iff {ε α β : Type} {read : α → Except ε β} {items : List α} :
    (∃ failure, items.mapM read = .error failure) ↔
      ∃ item ∈ items, ∃ failure, read item = .error failure := by
  induction items with
  | nil => exact ⟨fun ⟨_, fails⟩ => (nomatch fails), fun ⟨_, member, _⟩ => (nomatch member)⟩
  | cons item items ih =>
      rw [List.exists_mem_cons_iff, ← ih, List.mapM_cons]
      cases read item with
      | error failure => exact iff_of_true ⟨failure, rfl⟩ (.inl ⟨failure, rfl⟩)
      | ok result =>
          cases items.mapM read with
          | error failure => exact iff_of_true ⟨failure, rfl⟩ (.inr ⟨failure, rfl⟩)
          | ok results => exact iff_of_false (fun ⟨_, fails⟩ => nomatch fails) nofun

/-- A loop that reads each item and goes on with what it read is a loop over what is read,
if everything can be read. -/
theorem foldlM_of_mapM {ε α β γ : Type} {read : α → Except ε β} {whole : γ → α → Except ε γ}
    {step : γ → β → Except ε γ}
    (agree : ∀ state item result, read item = .ok result → whole state item = step state result)
    {items : List α} {results : List β} (all : items.mapM read = .ok results) (state : γ) :
    items.foldlM whole state = results.foldlM step state := by
  induction items generalizing results state with
  | nil =>
      cases all
      rfl
  | cons item items ih =>
      rw [List.mapM_cons] at all
      cases first : read item with
      | error failure =>
          rw [first] at all
          cases all
      | ok result =>
          rw [first] at all
          cases rest : items.mapM read with
          | error failure =>
              rw [rest] at all
              cases all
          | ok others =>
              rw [rest] at all
              cases all
              rw [List.foldlM_cons, List.foldlM_cons, agree state item result first]
              apply congrArg
              funext next
              exact ih rest next

/-- A loop over several lists one after the other. -/
theorem foldlM_flatten {α β : Type} {m : Type → Type} [Monad m] [LawfulMonad m]
    (step : β → α → m β) (lists : List (List α)) (state : β) :
    lists.flatten.foldlM step state =
      lists.foldlM (fun state items => items.foldlM step state) state := by
  induction lists generalizing state with
  | nil => rfl
  | cons items lists ih =>
      rw [List.flatten_cons, List.foldlM_append, List.foldlM_cons]
      apply congrArg
      funext next
      exact ih next

section Yields

variable {ε α β : Type}

/-- The computation succeeds under this condition only, and then with this value. -/
def Yields (computation : Except ε α) (condition : Prop) (value : α) : Prop :=
  ∀ result, computation = .ok result ↔ condition ∧ result = value

theorem Yields.ok (value : α) : Yields (.ok value : Except ε α) True value := by
  intro result
  rw [Except.ok.injEq, true_and, eq_comm]

theorem Yields.error (failure : ε) (value : α) : Yields (.error failure) False value :=
  fun _ => iff_of_false nofun And.left

/-- The condition and the value can be said in other words. -/
theorem Yields.congr {computation : Except ε α} {condition condition' : Prop} {value value' : α}
    (yields : Yields computation condition value) (same : condition ↔ condition')
    (sameValue : condition' → value = value') : Yields computation condition' value' := by
  intro result
  rw [yields result, same]
  exact and_congr_right fun holds => by rw [sameValue holds]

/-- A check that stands for the condition. -/
theorem Yields.ite {check condition : Prop} [Decidable check] (same : check ↔ condition)
    (value : α) (failure : ε) :
    Yields (if check then .ok value else .error failure) condition value := by
  split
  · next holds => exact (Yields.ok value).congr (iff_of_true trivial (same.mp holds)) fun _ => rfl
  · next fails =>
      exact (Yields.error failure value).congr (iff_of_false id (fails ∘ same.mpr)) fun _ => rfl

/-- One computation after another yields under both conditions. -/
theorem Yields.bind {computation : Except ε α} {next : α → Except ε β} {condition condition' : Prop}
    {value : α} {value' : β} (first : Yields computation condition value)
    (rest : Yields (next value) condition' value') :
    Yields (computation >>= next) (condition ∧ condition') value' := by
  intro result
  cases computation with
  | error failure => exact iff_of_false nofun fun ⟨⟨holds, _⟩, _⟩ =>
    nomatch (first value).mpr ⟨holds, rfl⟩
  | ok middle =>
      obtain ⟨holds, rfl⟩ := (first middle).mp rfl
      rw [and_iff_right holds]
      exact rest result

/-- What is made of the value afterwards changes no condition. -/
theorem Yields.map {computation : Except ε α} {condition : Prop} {value : α}
    (yields : Yields computation condition value) (change : α → β) :
    Yields (computation >>= fun result => Pure.pure (change result)) condition (change value) :=
  (yields.bind (Yields.ok (change value))).congr (iff_of_eq (and_true _)) fun _ => rfl

/-- A loop that reads every item. -/
theorem Yields.mapM {read : α → Except ε β} {good : α → Prop} {value : α → β}
    (each : ∀ item, Yields (read item) (good item) (value item)) (items : List α) :
    Yields (items.mapM read) (∀ item ∈ items, good item) (items.map value) := by
  induction items with
  | nil =>
      rw [List.mapM_nil]
      exact (Yields.ok []).congr (iff_of_true trivial fun _ member => nomatch member) fun _ => rfl
  | cons item items ih =>
      rw [List.mapM_cons]
      refine ((each item).bind (ih.map (value item :: ·))).congr ?_ fun _ => rfl
      exact List.forall_mem_cons.symm

/-- A loop whose rounds each succeed under a condition on their item only. -/
theorem Yields.foldlM {step : β → α → Except ε β} {good : α → Prop} {next : β → α → β}
    (each : ∀ state item, Yields (step state item) (good item) (next state item)) (items : List α)
    (start : β) :
    Yields (items.foldlM step start) (∀ item ∈ items, good item) (items.foldl next start) := by
  induction items generalizing start with
  | nil => exact (Yields.ok start).congr (iff_of_true trivial nofun) fun _ => rfl
  | cons item items ih =>
      rw [List.foldlM_cons]
      apply ((each start item).bind (ih (next start item))).congr
      · exact List.forall_mem_cons.symm
      · exact fun _ => rfl

/-- A computation succeeds exactly under its condition. -/
theorem Yields.succeeds_iff {computation : Except ε α} {condition : Prop} {value : α}
    (yields : Yields computation condition value) :
    (∃ result, computation = .ok result) ↔ condition :=
  ⟨fun ⟨result, ends⟩ => ((yields result).mp ends).1,
    fun holds => ⟨value, (yields value).mpr ⟨holds, rfl⟩⟩⟩

end Yields

end SmartMetWfs.Foundation
