import Mathlib.Data.List.Basic
import Mathlib.Order.Bounds.Basic
import Mathlib.Order.BoundedOrder.Lattice
import Mathlib.Order.MinMax

/-!
# Running extremes

A loop that keeps the least and the greatest value of what it visits. The loop may be
started anew at a marked element, and then knows nothing of what came before the mark.
-/

namespace SmartMetWfs.Foundation

section Restarted

variable {ι α : Type} [DecidableEq ι]

/-- A running value that is started anew at a mark. -/
def runningFrom (mark : ι) (combine : α → α → α) (value : ι → α) (start : α)
    (visited : List ι) : α :=
  visited.foldl (fun extreme item =>
    if item = mark then value item else combine extreme (value item)) start

variable {mark : ι} {combine : α → α → α} {value : ι → α} {start : α}

/-- Where the mark is not visited all values are combined with the start. -/
theorem runningFrom_unmarked {visited : List ι} (unmarked : mark ∉ visited) :
    runningFrom mark combine value start visited =
      (visited.map value).foldl combine start := by
  induction visited generalizing start with
  | nil => rfl
  | cons item visited ih =>
      have distinct : item ≠ mark := fun same => unmarked (same ▸ List.mem_cons_self ..)
      rw [runningFrom, List.foldl_cons, if_neg distinct]
      exact ih fun later => unmarked (List.mem_cons_of_mem _ later)

/-- What came before the mark is forgotten. -/
theorem runningFrom_marked (before : List ι) {after : List ι} (unmarked : mark ∉ after) :
    runningFrom mark combine value start (before ++ mark :: after) =
      (after.map value).foldl combine (value mark) := by
  rw [runningFrom, List.foldl_append, List.foldl_cons, if_pos rfl]
  exact runningFrom_unmarked unmarked

end Restarted

section Ordered

variable {ι α : Type} [LinearOrder α]

/-- The running minimum of a nonempty list is its least value. -/
theorem isLeast_foldl_min (first : α) (rest : List α) :
    IsLeast {value | value ∈ first :: rest} (rest.foldl min first) := by
  induction rest generalizing first with
  | nil => exact ⟨List.mem_singleton_self _, fun value member => (List.mem_singleton.mp member).ge⟩
  | cons next rest ih =>
      obtain ⟨attained, below⟩ := ih (min first next)
      have belowBoth := le_min_iff.mp (below (List.mem_cons_self ..))
      refine ⟨?_, ?_⟩
      · rcases List.mem_cons.mp attained with extreme | later
        · rcases min_choice first next with isFirst | isNext
          · exact List.mem_cons.mpr (.inl (extreme.trans isFirst))
          · exact List.mem_cons_of_mem _ (List.mem_cons.mpr (.inl (extreme.trans isNext)))
        · exact List.mem_cons_of_mem _ (List.mem_cons_of_mem _ later)
      · intro value member
        rcases List.mem_cons.mp member with rfl | tail
        · exact belowBoth.1
        · rcases List.mem_cons.mp tail with rfl | later
          · exact belowBoth.2
          · exact below (List.mem_cons_of_mem _ later)

/-- The least value of a part is the least of the whole when nothing lies below the part. -/
theorem isLeast_iff_of_subset {part whole : Set α} {least : α} (ofPart : IsLeast part least)
    (sub : part ⊆ whole) :
    IsLeast whole least ↔ ∀ value ∈ whole, ∃ kept ∈ part, kept ≤ value := by
  constructor
  · intro ofWhole value member
    exact ⟨least, ofPart.1, ofWhole.2 member⟩
  · intro covered
    refine ⟨sub ofPart.1, fun value member => ?_⟩
    obtain ⟨kept, inPart, below⟩ := covered value member
    exact (ofPart.2 inPart).trans below

variable [DecidableEq ι] {mark : ι} {value : ι → α} {start : α}

/-- The minimum starts again at the mark, so it is the least from there on. -/
theorem isLeast_runningFrom_marked (before : List ι) {after : List ι} (unmarked : mark ∉ after) :
    IsLeast (Set.image value {item | item ∈ mark :: after})
      (runningFrom mark min value start (before ++ mark :: after)) := by
  have image : Set.image value {item | item ∈ mark :: after} =
      {extreme | extreme ∈ value mark :: after.map value} := by
    ext extreme
    simp [eq_comm]
  rw [runningFrom_marked before unmarked, image]
  exact isLeast_foldl_min _ _

/-- Without the mark the minimum from the top is that of all values. -/
theorem isLeast_runningFrom_unmarked [OrderTop α] {visited : List ι} (unmarked : mark ∉ visited)
    (nonempty : visited ≠ []) :
    IsLeast (Set.image value {item | item ∈ visited})
      (runningFrom mark min value ⊤ visited) := by
  obtain ⟨item, rest, rfl⟩ := List.exists_cons_of_ne_nil nonempty
  have image : Set.image value {other | other ∈ item :: rest} =
      {extreme | extreme ∈ value item :: rest.map value} := by
    ext extreme
    simp [eq_comm]
  rw [runningFrom_unmarked unmarked, image, List.map_cons, List.foldl_cons, top_inf_eq]
  exact isLeast_foldl_min _ _

/-- The maximum starts again at the mark, so it is the greatest from there on. -/
theorem isGreatest_runningFrom_marked (before : List ι) {after : List ι}
    (unmarked : mark ∉ after) :
    IsGreatest (Set.image value {item | item ∈ mark :: after})
      (runningFrom mark max value start (before ++ mark :: after)) :=
  @isLeast_runningFrom_marked ι αᵒᵈ _ _ mark value start before after unmarked

/-- Without the mark the maximum from the bottom is that of all values. -/
theorem isGreatest_runningFrom_unmarked [OrderBot α] {visited : List ι} (unmarked : mark ∉ visited)
    (nonempty : visited ≠ []) :
    IsGreatest (Set.image value {item | item ∈ visited})
      (runningFrom mark max value ⊥ visited) :=
  @isLeast_runningFrom_unmarked ι αᵒᵈ _ _ mark value _ visited unmarked nonempty

/-- The greatest of a part is that of the whole when the rest is nowhere greater. -/
theorem isGreatest_iff_of_subset {part whole : Set α} {greatest : α}
    (ofPart : IsGreatest part greatest) (sub : part ⊆ whole) :
    IsGreatest whole greatest ↔ ∀ value ∈ whole, ∃ kept ∈ part, value ≤ kept :=
  @isLeast_iff_of_subset αᵒᵈ _ part whole greatest ofPart sub

end Ordered

end SmartMetWfs.Foundation
