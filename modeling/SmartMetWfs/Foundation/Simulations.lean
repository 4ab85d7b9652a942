import SmartMetWfs.Foundation.StreamLogic

/-!
# Simulations of stateful computations

A computation over detailed states mirrors one over abstract states when, from the detailed
form of every abstract state, it does the same: it returns the same value in the detailed
form of the state after it, or fails with the same error. What is proved of the abstract
computation then holds of the detailed one.

A computation with checks guards one without them when it does the same or fails a check.
-/

namespace SmartMetWfs.Foundation

variable {σ τ ε ε' : Type} (detail : σ → τ) (translate : ε → ε')

/-- The first computation does on detailed states what the second one does. -/
def Mirrors {α : Type} (detailed : StateT τ (Except ε') α) (abstract : StateT σ (Except ε) α) :
    Prop :=
  ∀ before, detailed (detail before) =
    ((abstract before).map fun result => (result.1, detail result.2)).mapError translate

variable {detail translate}

/-- A value that is returned is mirrored by itself. -/
theorem Mirrors.pure {α : Type} (value : α) :
    Mirrors detail translate (Pure.pure value) (Pure.pure value) :=
  fun _ => rfl

/-- Two computations that are mirrored are mirrored one after the other. -/
theorem Mirrors.bind {α β : Type} {detailed : StateT τ (Except ε') α}
    {abstract : StateT σ (Except ε) α} {detailed' : α → StateT τ (Except ε') β}
    {abstract' : α → StateT σ (Except ε) β} (first : Mirrors detail translate detailed abstract)
    (second : ∀ value, Mirrors detail translate (detailed' value) (abstract' value)) :
    Mirrors detail translate (detailed >>= detailed') (abstract >>= abstract') := by
  intro before
  change (detailed (detail before) >>= fun step => detailed' step.1 step.2) =
    (((abstract before >>= fun step => abstract' step.1 step.2)).map _).mapError _
  rw [first before]
  cases abstract before with
  | error error => rfl
  | ok step => exact second step.1 step.2

/-- A list of computations is mirrored when each of them is. -/
theorem Mirrors.mapM {α item : Type} {detailed : item → StateT τ (Except ε') α}
    {abstract : item → StateT σ (Except ε) α} (items : List item)
    (each : ∀ head, Mirrors detail translate (detailed head) (abstract head)) :
    Mirrors detail translate (items.mapM detailed) (items.mapM abstract) := by
  induction items with
  | nil => exact .pure []
  | cons head items ih =>
      rw [List.mapM_cons, List.mapM_cons]
      exact (each head).bind fun value => ih.bind fun values => .pure (value :: values)

/-- The same for computations without results. -/
theorem Mirrors.forM {item : Type} {detailed : item → StateT τ (Except ε') Unit}
    {abstract : item → StateT σ (Except ε) Unit} (items : List item)
    (each : ∀ head, Mirrors detail translate (detailed head) (abstract head)) :
    Mirrors detail translate (forM items detailed) (forM items abstract) := by
  induction items with
  | nil => exact .pure ()
  | cons head items ih =>
      rw [List.forM_cons, List.forM_cons]
      exact (each head).bind fun _ => ih

/-- The detailed computation succeeds where the abstract one does, with its value. -/
theorem Mirrors.run_ok {α : Type} {detailed : StateT τ (Except ε') α}
    {abstract : StateT σ (Except ε) α} (mirrors : Mirrors detail translate detailed abstract)
    {before after : σ} {value : α} (ran : abstract before = .ok (value, after)) :
    detailed (detail before) = .ok (value, detail after) := by
  rw [mirrors before, ran]
  rfl

/-- The detailed computation fails where the abstract one does, with its error translated. -/
theorem Mirrors.run_error {α : Type} {detailed : StateT τ (Except ε') α}
    {abstract : StateT σ (Except ε) α} (mirrors : Mirrors detail translate detailed abstract)
    {before : σ} {error : ε} (failed : abstract before = .error error) :
    detailed (detail before) = .error (translate error) := by
  rw [mirrors before, failed]
  rfl

/-! ### Invariants -/

/-- The computation leads from states with the property to such states. -/
def Keeps {α : Type} (property : σ → Prop) (computation : StateT σ (Except ε) α) : Prop :=
  ∀ before value after, property before → computation before = .ok (value, after) → property after

variable {property : σ → Prop}

/-- A value that is returned changes no state. -/
theorem Keeps.pure {α : Type} (value : α) :
    Keeps property (Pure.pure value : StateT σ (Except ε) α) := by
  intro before result after holds ran
  cases ran
  exact holds

/-- What each of two computations keeps they keep one after the other. -/
theorem Keeps.bind {α β : Type} {first : StateT σ (Except ε) α}
    {second : α → StateT σ (Except ε) β} (keepsFirst : Keeps property first)
    (keepsSecond : ∀ value, Keeps property (second value)) : Keeps property (first >>= second) := by
  intro before result after holds ran
  change (first before >>= fun step => second step.1 step.2) = _ at ran
  cases outcome : first before with
  | error error =>
      rw [outcome] at ran
      cases ran
  | ok step =>
      rw [outcome] at ran
      exact keepsSecond step.1 step.2 result after (keepsFirst before _ _ holds outcome) ran

/-- What each computation of a list keeps the list keeps. -/
theorem Keeps.forM {item : Type} {computation : item → StateT σ (Except ε) Unit}
    (items : List item) (each : ∀ head, Keeps property (computation head)) :
    Keeps property (forM items computation) := by
  induction items with
  | nil => exact .pure ()
  | cons head items ih =>
      rw [List.forM_cons]
      exact (each head).bind fun _ => ih

/-! ### Checks -/

section Guards

variable {source : Type}

/-- The first computation does what the second one does, or fails with an error of its own. -/
def Guards {α : Type} (translate : ε → ε') (checked : StateT source (Except ε') α)
    (plain : StateT source (Except ε) α) : Prop :=
  ∀ before, checked before = mapError translate plain before ∨
    ∃ fault, checked before = .error fault ∧ ∀ error, fault ≠ translate error

variable {translate : ε → ε'}

/-- With its errors translated a computation is a guard of itself. -/
theorem Guards.mapError {α : Type} (plain : StateT source (Except ε) α) :
    Guards translate (Foundation.mapError translate plain) plain :=
  fun _ => .inl rfl

/-- A value that is returned needs no guard. -/
theorem Guards.pure {α : Type} (value : α) :
    Guards translate (Pure.pure value : StateT source (Except ε') α) (Pure.pure value) :=
  fun _ => .inl rfl

/-- A fault of its own may be thrown at any time. -/
theorem Guards.throw {α : Type} {fault : ε'} (own : ∀ error, fault ≠ translate error)
    (plain : StateT source (Except ε) α) :
    Guards translate (throw fault : StateT source (Except ε') α) plain :=
  fun _ => .inr ⟨fault, rfl, own⟩

/-- Two computations that are guarded are guarded one after the other. -/
theorem Guards.bind {α β : Type} {checked : StateT source (Except ε') α}
    {plain : StateT source (Except ε) α} {checked' : α → StateT source (Except ε') β}
    {plain' : α → StateT source (Except ε) β} (first : Guards translate checked plain)
    (second : ∀ value, Guards translate (checked' value) (plain' value)) :
    Guards translate (checked >>= checked') (plain >>= plain') := by
  intro before
  change (checked before >>= fun step => checked' step.1 step.2) =
    ((plain before >>= fun step => plain' step.1 step.2).mapError translate) ∨ ∃ fault,
      (checked before >>= fun step => checked' step.1 step.2) = .error fault ∧ _
  rcases first before with same | ⟨fault, failed, own⟩
  · rw [same, Foundation.mapError]
    cases plain before with
    | error error => exact .inl rfl
    | ok step => exact second step.1 step.2
  · rw [failed]
    exact .inr ⟨fault, rfl, own⟩

/-- A loop whose rounds are guarded. -/
theorem Guards.whileFlag {token γ : Type} {view : source → List token}
    {flag : StateT source (Except ε) Bool} {advances : Advances view flag}
    {advances' : Advances view (Foundation.mapError translate flag)}
    {checked : γ → StateT source (Except ε') γ} {plain : γ → StateT source (Except ε) γ}
    {shrinks : ∀ accumulator, Shrinks view (plain accumulator)}
    {shrinks' : ∀ accumulator, Shrinks view (checked accumulator)}
    (rounds : ∀ accumulator, Guards translate (checked accumulator) (plain accumulator))
    (accumulator : γ) :
    Guards translate
      (Foundation.whileFlag (Foundation.mapError translate flag) advances' checked shrinks'
        accumulator)
      (Foundation.whileFlag flag advances plain shrinks accumulator) := by
  intro before
  induction measured : (view before).length using Nat.strongRecOn
    generalizing accumulator before with
  | ind size ih =>
      subst measured
      cases flagged : flag before with
      | error error =>
          have flagged' : Foundation.mapError translate flag before = .error (translate error) := by
            rw [Foundation.mapError, flagged]
            rfl
          left
          rw [whileFlag_flag_error flagged', Foundation.mapError, whileFlag_flag_error flagged]
          rfl
      | ok result =>
          obtain ⟨raised, middle⟩ := result
          have flagged' : Foundation.mapError translate flag before = .ok (raised, middle) :=
            mapError_ok.mpr flagged
          cases raised with
          | false =>
              left
              rw [whileFlag_end flagged', Foundation.mapError, whileFlag_end flagged]
              rfl
          | true =>
              rcases rounds accumulator middle with same | ⟨fault, failed, own⟩
              · cases round : plain accumulator middle with
                | error error =>
                    rw [Foundation.mapError, round] at same
                    left
                    rw [whileFlag_body_error flagged' same, Foundation.mapError,
                      whileFlag_body_error flagged round]
                    rfl
                | ok result =>
                    obtain ⟨next, later⟩ := result
                    rw [Foundation.mapError, round] at same
                    have shorter : (view later).length < (view before).length :=
                      Nat.lt_of_le_of_lt (shrinks accumulator middle next later round)
                        (advances before true middle flagged)
                    rw [whileFlag_again flagged' same, Foundation.mapError,
                      whileFlag_again flagged round]
                    exact ih _ shorter next later rfl
              · exact .inr ⟨fault, whileFlag_body_error flagged' failed, own⟩

end Guards

end SmartMetWfs.Foundation
