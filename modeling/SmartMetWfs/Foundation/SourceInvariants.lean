import SmartMetWfs.Foundation.FixedReads

/-!
# Invariants of a source

A reader returns *under* an invariant of its source when it leaves the invariant as it found
it, and what it returns may rest on the invariant. A reader *takes* a number of tokens when it
shortens the view by that many at least. Together they bound what can be read by what there
is to read.
-/

namespace SmartMetWfs.Foundation

variable {source ε : Type}

section Invariants

/-- Where the invariant holds, the reader leaves it and returns a value with the property. -/
def ReturnsUnder {α : Type} (invariant : source → Prop) (property : α → Prop)
    (reader : StateT source (Except ε) α) : Prop :=
  ∀ before value after, invariant before → reader before = .ok (value, after) →
    property value ∧ invariant after

variable {invariant : source → Prop}

/-- A value with the property that is returned. -/
theorem ReturnsUnder.pure {α : Type} {property : α → Prop} {value : α} (holds : property value) :
    ReturnsUnder invariant property (Pure.pure value : StateT source (Except ε) α) := by
  intro before result after kept ran
  cases ran
  exact ⟨holds, kept⟩

/-- An error returns nothing. -/
theorem ReturnsUnder.throw {α : Type} {property : α → Prop} (error : ε) :
    ReturnsUnder invariant property (throw error : StateT source (Except ε) α) := by
  intro before result after kept ran
  cases ran

/-- What the first reader returns is known to the second. -/
theorem ReturnsUnder.bind {α β : Type} {first : StateT source (Except ε) α}
    {second : α → StateT source (Except ε) β} {middle : α → Prop} {property : β → Prop}
    (keepsFirst : ReturnsUnder invariant middle first)
    (keepsSecond : ∀ value, middle value → ReturnsUnder invariant property (second value)) :
    ReturnsUnder invariant property (first >>= second) := by
  intro before final after kept ran
  obtain ⟨value, state, ranFirst, ranSecond⟩ := bind_eq_ok ran
  obtain ⟨holds, keptMiddle⟩ := keepsFirst before value state kept ranFirst
  exact keepsSecond value holds state final after keptMiddle ranSecond

/-- Another text of the error returns no other value. -/
theorem ReturnsUnder.mapError {ε' α : Type} {property : α → Prop}
    {reader : StateT source (Except ε) α}
    (keeps : ReturnsUnder invariant property reader) (translate : ε → ε') :
    ReturnsUnder invariant property (Foundation.mapError translate reader) :=
  fun before value after kept ran => keeps before value after kept (mapError_ok.mp ran)

/-- What one round keeps, the loop keeps. -/
theorem ReturnsUnder.whileFlag {token γ : Type} {view : source → List token}
    {flag : StateT source (Except ε) Bool} {advances : Advances view flag}
    {body : γ → StateT source (Except ε) γ}
    {shrinks : ∀ accumulator, Shrinks view (body accumulator)} {property : γ → Prop}
    (keepsFlag : ReturnsUnder invariant (fun _ => True) flag)
    (keeps : ∀ accumulator, property accumulator →
      ReturnsUnder invariant property (body accumulator))
    {accumulator : γ} (holds : property accumulator) :
    ReturnsUnder invariant property
      (Foundation.whileFlag flag advances body shrinks accumulator) := by
  intro before value after kept ran
  refine @whileFlag_induction source ε token γ view flag advances body shrinks
    (fun accumulator before value after => property accumulator → invariant before →
      property value ∧ invariant after) ?_ ?_ _ _ _ _ ran holds kept
  · intro accumulator before after ranFlag holds kept
    exact ⟨holds, (keepsFlag before false after kept ranFlag).2⟩
  · intro accumulator before middle next later value after ranFlag ranBody rest holds kept
    have keptMiddle := (keepsFlag before true middle kept ranFlag).2
    obtain ⟨holdsNext, keptLater⟩ := keeps accumulator holds middle next later keptMiddle ranBody
    exact rest holdsNext keptLater

end Invariants

section Tokens

variable {token : Type} (view : source → List token)

/-- The view is no longer than the bound. -/
def AtMost (bound : Nat) (state : source) : Prop := (view state).length ≤ bound

/-- A reader that takes so many tokens at least whenever it succeeds. -/
def TakesAtLeast {α : Type} (count : Nat) (reader : StateT source (Except ε) α) : Prop :=
  ∀ before value after, reader before = .ok (value, after) →
    (view after).length + count ≤ (view before).length

variable {view}

/-- A reader that adds nothing keeps the rest below a bound. -/
theorem Shrinks.returnsUnder {α : Type} {reader : StateT source (Except ε) α}
    (shrinks : Shrinks view reader) (bound : Nat) :
    ReturnsUnder (AtMost view bound) (fun _ => True) reader :=
  fun before value after kept ran => ⟨trivial, Nat.le_trans (shrinks before value after ran) kept⟩

/-- A reader of a fixed number of tokens. -/
theorem Takes.atLeast {α : Type} {reader : StateT source (Except ε) α} {count : Nat}
    {value : List token → α} {error : ε} (takes : Takes view reader count value error) :
    TakesAtLeast view count reader := by
  intro before result after ran
  by_cases enough : count ≤ (view before).length
  · obtain ⟨after', ran', left⟩ := takes.run enough
    cases ran.symm.trans ran'
    rw [left, List.length_drop]
    omega
  · rw [takes.exhausted before (by omega)] at ran
    cases ran

/-- A reader that adds nothing takes at least nothing. -/
theorem Shrinks.takesAtLeast {α : Type} {reader : StateT source (Except ε) α}
    (shrinks : Shrinks view reader) : TakesAtLeast view 0 reader := shrinks

/-- A value that is returned takes nothing. -/
theorem TakesAtLeast.pure {α : Type} (value : α) :
    TakesAtLeast view 0 (Pure.pure value : StateT source (Except ε) α) :=
  (Shrinks.pure value).takesAtLeast

/-- One reader after another takes at least the sum. -/
theorem TakesAtLeast.bind {α β : Type} {first : StateT source (Except ε) α}
    {second : α → StateT source (Except ε) β} {count more : Nat}
    (takesFirst : TakesAtLeast view count first)
    (takesSecond : ∀ value, TakesAtLeast view more (second value)) :
    TakesAtLeast view (count + more) (first >>= second) := by
  intro before final after ran
  obtain ⟨value, middle, ranFirst, ranSecond⟩ := bind_eq_ok ran
  have begun := takesFirst before value middle ranFirst
  have ended := takesSecond value middle final after ranSecond
  omega

/-- A reader followed by one that takes nothing more. -/
theorem TakesAtLeast.bind_shrinks {α β : Type} {first : StateT source (Except ε) α}
    {second : α → StateT source (Except ε) β} {count : Nat}
    (takesFirst : TakesAtLeast view count first)
    (shrinksSecond : ∀ value, Shrinks view (second value)) :
    TakesAtLeast view count (first >>= second) :=
  takesFirst.bind fun value => (shrinksSecond value).takesAtLeast

/-- Every one of the values that are read has taken its share. -/
theorem TakesAtLeast.readTimes {α : Type} {reader : StateT source (Except ε) α} {count : Nat}
    (takes : TakesAtLeast view count reader) (times : Nat) :
    TakesAtLeast view (count * times) (Foundation.readTimes reader times) := by
  induction times with
  | zero => exact .pure _
  | succ times ih =>
      have taken : count * (times + 1) = count + (count * times + 0) := by
        rw [Nat.mul_succ, Nat.add_zero, Nat.add_comm]
      rw [taken]
      exact takes.bind fun value => ih.bind fun values => .pure _

end Tokens

end SmartMetWfs.Foundation
