import Mathlib.Order.Basic
import Mathlib.Tactic.Common

/-!
# Emission and consumption of token sequences

A writer is a stateful computation over a sink, a reader one over a source. Both
are described by the tokens they move: a writer *emits* a token list when it
appends exactly that list to what the sink shows, and a reader *consumes* a token
list when, whatever follows it, the reader takes exactly that list off the front
of what the source shows and returns a fixed value.

The rules below compose the two notions along `pure`, bind and loops. They are
stated for an arbitrary state type with a view of it as a token list.
-/

namespace SmartMetWfs.Foundation

section Emission

variable {sink ε token : Type} (view : sink → List token)

/-- The writer succeeds on every sink and appends exactly `tokens` to its view. -/
def Emits {α : Type} (writer : StateT sink (Except ε) α) (tokens : List token) : Prop :=
  ∀ before, ∃ result after, writer before = .ok (result, after) ∧
    view after = view before ++ tokens

variable {view}

/-- A value that is returned emits nothing. -/
theorem Emits.pure {α : Type} (result : α) :
    Emits view (Pure.pure result : StateT sink (Except ε) α) [] := by
  intro before
  exact ⟨result, before, rfl, (List.append_nil _).symm⟩

/-- Sequencing two writers concatenates what they emit. -/
theorem Emits.bind {α β : Type} {first : StateT sink (Except ε) α}
    {second : α → StateT sink (Except ε) β} {firstTokens secondTokens : List token}
    (emitsFirst : Emits view first firstTokens)
    (emitsSecond : ∀ result, Emits view (second result) secondTokens) :
    Emits view (first >>= second) (firstTokens ++ secondTokens) := by
  intro before
  obtain ⟨result, middle, ranFirst, viewMiddle⟩ := emitsFirst before
  obtain ⟨final, after, ranSecond, viewAfter⟩ := emitsSecond result middle
  refine ⟨final, after, ?_, ?_⟩
  · change (first before >>= fun step => second step.1 step.2) = _
    rw [ranFirst]
    exact ranSecond
  · rw [viewAfter, viewMiddle, List.append_assoc]

/-- The tokens can be written in other words. -/
theorem Emits.cast {α : Type} {writer : StateT sink (Except ε) α} {tokens tokens' : List token}
    (emits : Emits view writer tokens) (same : tokens = tokens') : Emits view writer tokens' :=
  same ▸ emits

/-- The form of `Emits.bind` for consecutive statements of a `do` block. -/
theorem Emits.seq {first second : StateT sink (Except ε) Unit}
    {firstTokens secondTokens : List token}
    (emitsFirst : Emits view first firstTokens) (emitsSecond : Emits view second secondTokens) :
    Emits view (first >>= fun _ => second) (firstTokens ++ secondTokens) :=
  emitsFirst.bind fun _ => emitsSecond

/-- Writing the elements of a list one after the other emits the concatenation
of what the elements emit. -/
theorem Emits.forM {α : Type} {write : α → StateT sink (Except ε) Unit}
    {tokens : α → List token} (items : List α)
    (emits : ∀ item ∈ items, Emits view (write item) (tokens item)) :
    Emits view (forM items write) (items.flatMap tokens) := by
  induction items with
  | nil => exact .pure _
  | cons item items ih =>
      rw [List.forM_cons, List.flatMap_cons]
      exact (emits item List.mem_cons_self).seq
        (ih fun other member => emits other (List.mem_cons_of_mem _ member))

/-- A writer that emits a list leaves it at the end of the view. -/
theorem Emits.run {writer : StateT sink (Except ε) Unit} {tokens : List token}
    (emits : Emits view writer tokens) (before : sink) :
    ∃ after, writer before = .ok ((), after) ∧ view after = view before ++ tokens := by
  obtain ⟨_, after, ran, viewAfter⟩ := emits before
  exact ⟨after, ran, viewAfter⟩

end Emission

section Consumption

variable {source ε token : Type} (view : source → List token)

/-- Whatever follows `tokens`, the reader takes exactly `tokens` and returns `value`. -/
def Consumes {α : Type} (reader : StateT source (Except ε) α) (tokens : List token)
    (value : α) : Prop :=
  ∀ before rest, view before = tokens ++ rest →
    ∃ after, reader before = .ok (value, after) ∧ view after = rest

/-- A reader that never makes the view longer. -/
def Shrinks {α : Type} (reader : StateT source (Except ε) α) : Prop :=
  ∀ before value after, reader before = .ok (value, after) →
    (view after).length ≤ (view before).length

/-- A reader that takes at least one token whenever it succeeds. -/
def Advances {α : Type} (reader : StateT source (Except ε) α) : Prop :=
  ∀ before value after, reader before = .ok (value, after) →
    (view after).length < (view before).length

variable {view}

/-- A value that is returned consumes nothing. -/
theorem Consumes.pure {α : Type} (value : α) :
    Consumes view (Pure.pure value : StateT source (Except ε) α) [] value := by
  intro before rest shown
  exact ⟨before, rfl, shown⟩

/-- Sequencing two readers consumes the concatenation of their tokens. -/
theorem Consumes.bind {α β : Type} {first : StateT source (Except ε) α}
    {second : α → StateT source (Except ε) β} {firstTokens secondTokens : List token}
    {value : α} {final : β}
    (consumesFirst : Consumes view first firstTokens value)
    (consumesSecond : Consumes view (second value) secondTokens final) :
    Consumes view (first >>= second) (firstTokens ++ secondTokens) final := by
  intro before rest shown
  rw [List.append_assoc] at shown
  obtain ⟨middle, ranFirst, viewMiddle⟩ := consumesFirst before _ shown
  obtain ⟨after, ranSecond, viewAfter⟩ := consumesSecond middle rest viewMiddle
  refine ⟨after, ?_, viewAfter⟩
  change (first before >>= fun step => second step.1 step.2) = _
  rw [ranFirst]
  exact ranSecond

/-- Post-processing the value of a reader consumes nothing more. -/
theorem Consumes.bind_pure {α β : Type} {reader : StateT source (Except ε) α}
    {tokens : List token} {value : α} (consumes : Consumes view reader tokens value)
    (post : α → β) :
    Consumes view (reader >>= fun result => Pure.pure (post result)) tokens (post value) := by
  rw [← List.append_nil tokens]
  exact consumes.bind (.pure (post value))

/-- The tokens and the value can be written in other words. -/
theorem Consumes.cast {α : Type} {reader : StateT source (Except ε) α}
    {tokens tokens' : List token} {value value' : α} (consumes : Consumes view reader tokens value)
    (sameTokens : tokens = tokens') (sameValue : value = value') :
    Consumes view reader tokens' value' :=
  sameTokens ▸ sameValue ▸ consumes

/-- Reading one element for each element of a list. -/
theorem Consumes.mapM {α β : Type} {read : α → StateT source (Except ε) β}
    {tokens : α → List token} {value : α → β} (items : List α)
    (consumes : ∀ item ∈ items, Consumes view (read item) (tokens item) (value item)) :
    Consumes view (items.mapM read) (items.flatMap tokens) (items.map value) := by
  induction items with
  | nil => exact .pure _
  | cons item items ih =>
      rw [List.mapM_cons, List.flatMap_cons, List.map_cons]
      exact (consumes item List.mem_cons_self).bind
        ((ih fun other member => consumes other (List.mem_cons_of_mem _ member)).bind_pure
          (fun results => value item :: results))

/-- Run a reader a fixed number of times and collect the values in order. -/
def readTimes {α : Type} (reader : StateT source (Except ε) α) :
    Nat → StateT source (Except ε) (List α)
  | 0 => Pure.pure []
  | times + 1 => do
      let value ← reader
      let values ← readTimes reader times
      Pure.pure (value :: values)

/-- Items that are written one after the other are read so many times. -/
theorem Consumes.readTimes {α : Type} {reader : StateT source (Except ε) α}
    {tokens : α → List token} (items : List α)
    (consumes : ∀ item ∈ items, Consumes view reader (tokens item) item) :
    Consumes view (readTimes reader items.length) (items.flatMap tokens) items := by
  induction items with
  | nil => exact .pure _
  | cons item items ih =>
      rw [List.flatMap_cons]
      exact (consumes item List.mem_cons_self).bind
        ((ih fun other member => consumes other (List.mem_cons_of_mem _ member)).bind_pure
          (fun results => item :: results))

/-- A value that is returned adds nothing. -/
theorem Shrinks.pure {α : Type} (value : α) :
    Shrinks view (Pure.pure value : StateT source (Except ε) α) := by
  intro before result after ran
  cases ran
  exact Nat.le_refl _

/-- An error adds nothing. -/
theorem Shrinks.throw {α : Type} (error : ε) :
    Shrinks view (throw error : StateT source (Except ε) α) := by
  intro before result after ran
  cases ran

/-- A reader that advances adds nothing. -/
theorem Advances.shrinks {α : Type} {reader : StateT source (Except ε) α}
    (advances : Advances view reader) : Shrinks view reader :=
  fun before value after ran => Nat.le_of_lt (advances before value after ran)

/-- A successful bind splits at the intermediate state. -/
theorem bind_eq_ok {α β : Type} {first : StateT source (Except ε) α}
    {second : α → StateT source (Except ε) β} {before : source} {result : β × source}
    (ran : (first >>= second) before = .ok result) :
    ∃ value middle, first before = .ok (value, middle) ∧ second value middle = .ok result := by
  change (first before >>= fun step => second step.1 step.2) = _ at ran
  cases ranFirst : first before with
  | error error =>
      rw [ranFirst] at ran
      cases ran
  | ok step =>
      rw [ranFirst] at ran
      exact ⟨step.1, step.2, rfl, ran⟩

/-- Two readers that add nothing add nothing one after the other. -/
theorem Shrinks.bind {α β : Type} {first : StateT source (Except ε) α}
    {second : α → StateT source (Except ε) β} (shrinksFirst : Shrinks view first)
    (shrinksSecond : ∀ value, Shrinks view (second value)) :
    Shrinks view (first >>= second) := by
  intro before final after ran
  obtain ⟨value, middle, ranFirst, ranSecond⟩ := bind_eq_ok ran
  exact Nat.le_trans (shrinksSecond value middle final after ranSecond)
    (shrinksFirst before value middle ranFirst)

/-- A reader that adds nothing adds nothing in so many times. -/
theorem Shrinks.readTimes {α : Type} {reader : StateT source (Except ε) α}
    (shrinks : Shrinks view reader) (times : Nat) : Shrinks view (readTimes reader times) := by
  induction times with
  | zero => exact .pure _
  | succ times ih => exact shrinks.bind fun _ => ih.bind fun _ => .pure _

end Consumption

section FlagLoop

variable {source ε token γ : Type} {view : source → List token}

set_option linter.unusedVariables false in
/-- `while (flag()) accumulator = body(accumulator)`. The loop ends because the
flag itself takes a token off the source on every round. -/
def whileFlag (flag : StateT source (Except ε) Bool) (advances : Advances view flag)
    (body : γ → StateT source (Except ε) γ)
    (shrinks : ∀ accumulator, Shrinks view (body accumulator))
    (accumulator : γ) (before : source) : Except ε (γ × source) :=
  match ranFlag : flag before with
  | .error error => .error error
  | .ok (false, after) => .ok (accumulator, after)
  | .ok (true, middle) =>
      match ranBody : body accumulator middle with
      | .error error => .error error
      | .ok (next, after) => whileFlag flag advances body shrinks next after
termination_by (view before).length
decreasing_by
  exact Nat.lt_of_le_of_lt (shrinks accumulator middle next after ranBody)
    (advances before true middle ranFlag)

variable {flag : StateT source (Except ε) Bool} {advances : Advances view flag}
  {body : γ → StateT source (Except ε) γ} {shrinks : ∀ accumulator, Shrinks view (body accumulator)}

/-- The flag is lowered, and the loop is over. -/
theorem whileFlag_end {accumulator : γ} {before after : source}
    (lowered : flag before = .ok (false, after)) :
    whileFlag flag advances body shrinks accumulator before = .ok (accumulator, after) := by
  rw [whileFlag]
  split
  · next failed => rw [lowered] at failed; cases failed
  · next stopped ranFlag =>
      rw [lowered] at ranFlag
      cases ranFlag
      rfl
  · next raised => rw [lowered] at raised; cases raised

/-- A flag that cannot be read ends the loop. -/
theorem whileFlag_flag_error {accumulator : γ} {before : source} {error : ε}
    (failed : flag before = .error error) :
    whileFlag flag advances body shrinks accumulator before = .error error := by
  rw [whileFlag]
  split
  · next failed' =>
      rw [failed] at failed'
      cases failed'
      rfl
  · next lowered => rw [failed] at lowered; cases lowered
  · next raised => rw [failed] at raised; cases raised

/-- A round that fails ends the loop. -/
theorem whileFlag_body_error {accumulator : γ} {before middle : source} {error : ε}
    (raised : flag before = .ok (true, middle)) (failed : body accumulator middle = .error error) :
    whileFlag flag advances body shrinks accumulator before = .error error := by
  rw [whileFlag]
  split
  · next failed' => rw [raised] at failed'; cases failed'
  · next lowered => rw [raised] at lowered; cases lowered
  · next raised' =>
      rw [raised] at raised'
      cases raised'
      split
      · next failed' =>
          rw [failed] at failed'
          cases failed'
          rfl
      · next round => rw [failed] at round; cases round

/-- The loop goes on after a round. -/
theorem whileFlag_again {accumulator next : γ} {before middle later : source}
    (raised : flag before = .ok (true, middle))
    (round : body accumulator middle = .ok (next, later)) :
    whileFlag flag advances body shrinks accumulator before =
      whileFlag flag advances body shrinks next later := by
  conv_lhs => rw [whileFlag]
  split
  · next failed => rw [raised] at failed; cases failed
  · next lowered => rw [raised] at lowered; cases lowered
  · next raised' =>
      rw [raised] at raised'
      cases raised'
      split
      · next failed => rw [round] at failed; cases failed
      · next round' =>
          rw [round] at round'
          cases round'
          rfl

/-- The loop stops on a lowered flag with the accumulator as it is. -/
theorem Consumes.whileFlag_stop {stop : List token} (accumulator : γ)
    (lowered : Consumes view flag stop false) :
    Consumes view (whileFlag flag advances body shrinks accumulator) stop accumulator := by
  intro before rest shown
  obtain ⟨after, ran, viewAfter⟩ := lowered before rest shown
  exact ⟨after, whileFlag_end ran, viewAfter⟩

/-- A raised flag runs the body once and goes round again. -/
theorem Consumes.whileFlag_step {raise item rest' : List token} {accumulator next final : γ}
    (raised : Consumes view flag raise true)
    (round : Consumes view (body accumulator) item next)
    (remaining : Consumes view (whileFlag flag advances body shrinks next) rest' final) :
    Consumes view (whileFlag flag advances body shrinks accumulator)
      (raise ++ (item ++ rest')) final := by
  intro before rest shown
  rw [List.append_assoc, List.append_assoc] at shown
  obtain ⟨middle, ranFlag, viewMiddle⟩ := raised before _ shown
  obtain ⟨after, ranBody, viewAfter⟩ := round middle _ viewMiddle
  obtain ⟨finish, ranRest, viewFinish⟩ := remaining after rest viewAfter
  refine ⟨finish, ?_, viewFinish⟩
  rw [whileFlag_again ranFlag ranBody]
  exact ranRest

/-- One round per item: the loop over a flagged list folds the items into the
accumulator. -/
theorem Consumes.whileFlag_items {α : Type} {raise stop : List token}
    {tokens : α → List token} (fold : γ → α → γ) (items : List α) (accumulator : γ)
    (raised : Consumes view flag raise true) (lowered : Consumes view flag stop false)
    (round : ∀ item ∈ items, ∀ accumulator,
      Consumes view (body accumulator) (tokens item) (fold accumulator item)) :
    Consumes view (whileFlag flag advances body shrinks accumulator)
      (items.flatMap (fun item => raise ++ tokens item) ++ stop)
      (items.foldl fold accumulator) := by
  induction items generalizing accumulator with
  | nil => exact .whileFlag_stop accumulator lowered
  | cons item items ih =>
      refine (Consumes.whileFlag_step raised (round item List.mem_cons_self accumulator)
        (ih (fold accumulator item) fun other member =>
          round other (List.mem_cons_of_mem _ member))).cast ?_ rfl
      simp only [List.flatMap_cons, List.append_assoc]

/-- What holds when the loop stops, and is carried over each round, holds of every run. -/
theorem whileFlag_induction {motive : γ → source → γ → source → Prop}
    (stops : ∀ accumulator before after, flag before = .ok (false, after) →
      motive accumulator before accumulator after)
    (goesOn : ∀ accumulator before middle next later value after,
      flag before = .ok (true, middle) → body accumulator middle = .ok (next, later) →
        motive next later value after → motive accumulator before value after)
    {accumulator value : γ} {before after : source}
    (ran : whileFlag flag advances body shrinks accumulator before = .ok (value, after)) :
    motive accumulator before value after := by
  induction measured : (view before).length using Nat.strongRecOn
    generalizing accumulator before with
  | ind size ih =>
      subst measured
      rw [whileFlag] at ran
      split at ran
      · cases ran
      · next stopped ranFlag =>
          cases ran
          exact stops value before after ranFlag
      · next middle ranFlag =>
          split at ran
          · cases ran
          · next next later ranBody =>
              have shorter : (view later).length < (view before).length :=
                Nat.lt_of_le_of_lt (shrinks accumulator middle next later ranBody)
                  (advances before true middle ranFlag)
              exact goesOn accumulator before middle next later value after ranFlag ranBody
                (ih _ shorter ran rfl)

/-- The loop as a whole takes at least one token. -/
theorem Advances.whileFlag (accumulator : γ) :
    Advances view (whileFlag flag advances body shrinks accumulator) := by
  intro before value after ran
  refine @whileFlag_induction source ε token γ view flag advances body shrinks
    (fun _ before _ after => (view after).length < (view before).length) ?_ ?_ _ _ _ _ ran
  · intro _ before after ranFlag
    exact advances before false after ranFlag
  · intro accumulator before middle next later _ after ranFlag ranBody shorter
    have round : (view later).length < (view before).length :=
      Nat.lt_of_le_of_lt (shrinks accumulator middle next later ranBody)
        (advances before true middle ranFlag)
    exact Nat.lt_trans shorter round

end FlagLoop

section Results

variable {source ε : Type}

/-- Every value the reader can return has the property. -/
def Returns {α : Type} (property : α → Prop) (reader : StateT source (Except ε) α) : Prop :=
  ∀ before value after, reader before = .ok (value, after) → property value

/-- A value with the property that is returned. -/
theorem Returns.pure {α : Type} {property : α → Prop} {value : α} (holds : property value) :
    Returns property (Pure.pure value : StateT source (Except ε) α) := by
  intro before result after ran
  cases ran
  exact holds

/-- An error returns nothing. -/
theorem Returns.throw {α : Type} {property : α → Prop} (error : ε) :
    Returns property (throw error : StateT source (Except ε) α) := by
  intro before result after ran
  cases ran

/-- A property of what is returned can be weakened. -/
theorem Returns.imp {α : Type} {strong weak : α → Prop} {reader : StateT source (Except ε) α}
    (returns : Returns strong reader) (weaken : ∀ value, strong value → weak value) :
    Returns weak reader :=
  fun before value after ran => weaken value (returns before value after ran)

/-- What the first reader returns is known to the second. -/
theorem Returns.bind {α β : Type} {first : StateT source (Except ε) α}
    {second : α → StateT source (Except ε) β} {middle : α → Prop} {property : β → Prop}
    (returnsFirst : Returns middle first)
    (returnsSecond : ∀ value, middle value → Returns property (second value)) :
    Returns property (first >>= second) := by
  intro before final after ran
  obtain ⟨value, state, ranFirst, ranSecond⟩ := bind_eq_ok ran
  exact returnsSecond value (returnsFirst before value state ranFirst) state final after ranSecond

/-- What the second reader returns is what is returned. -/
theorem Returns.seq {α β : Type} {first : StateT source (Except ε) α}
    {second : α → StateT source (Except ε) β} {property : β → Prop}
    (returnsSecond : ∀ value, Returns property (second value)) :
    Returns property (first >>= second) := by
  intro before final after ran
  obtain ⟨value, state, _, ranSecond⟩ := bind_eq_ok ran
  exact returnsSecond value state final after ranSecond

/-- There are as many values as times. -/
theorem Returns.readTimes {α : Type} (reader : StateT source (Except ε) α) (times : Nat) :
    Returns (fun values => values.length = times) (Foundation.readTimes reader times) := by
  induction times with
  | zero => exact .pure rfl
  | succ times ih =>
      exact .seq fun value => ih.bind fun values length => .pure (congrArg (· + 1) length)

/-- What one round keeps, the loop returns. -/
theorem Returns.whileFlag {token γ : Type} {view : source → List token}
    {flag : StateT source (Except ε) Bool} {advances : Advances view flag}
    {body : γ → StateT source (Except ε) γ}
    {shrinks : ∀ accumulator, Shrinks view (body accumulator)} {invariant : γ → Prop}
    (keeps : ∀ accumulator, invariant accumulator → Returns invariant (body accumulator))
    {accumulator : γ} (holds : invariant accumulator) :
    Returns invariant (Foundation.whileFlag flag advances body shrinks accumulator) := by
  intro before value after ran
  refine @whileFlag_induction source ε token γ view flag advances body shrinks
    (fun accumulator _ value _ => invariant accumulator → invariant value) ?_ ?_ _ _ _ _ ran holds
  · exact fun _ _ _ _ holds => holds
  · intro accumulator _ middle next later _ _ _ ranBody rest holds
    exact rest (keeps accumulator holds middle next later ranBody)

/-- A reader with its errors translated. -/
def mapError {ε' α : Type} (translate : ε → ε') (reader : StateT source (Except ε) α) :
    StateT source (Except ε') α :=
  fun before => (reader before).mapError translate

/-- Another text of the error does not change what is consumed. -/
theorem Consumes.mapError {token ε' α : Type} {view : source → List token}
    {reader : StateT source (Except ε) α} {tokens : List token} {value : α}
    (consumes : Consumes view reader tokens value) (translate : ε → ε') :
    Consumes view (Foundation.mapError translate reader) tokens value := by
  intro before rest shown
  obtain ⟨after, ran, viewAfter⟩ := consumes before rest shown
  refine ⟨after, ?_, viewAfter⟩
  rw [Foundation.mapError, ran]
  rfl

/-- Another text of the error does not change what is returned. -/
theorem Returns.mapError {ε' α : Type} {property : α → Prop}
    {reader : StateT source (Except ε) α} (returns : Returns property reader)
    (translate : ε → ε') : Returns property (Foundation.mapError translate reader) := by
  intro before value after ran
  rw [Foundation.mapError] at ran
  cases outcome : reader before with
  | error error =>
      rw [outcome] at ran
      cases ran
  | ok result =>
      rw [outcome] at ran
      cases ran
      exact returns before value after outcome

/-- Another text of the error makes no success. -/
theorem mapError_ok {ε' α : Type} {translate : ε → ε'} {reader : StateT source (Except ε) α}
    {before after : source} {value : α} :
    Foundation.mapError translate reader before = .ok (value, after) ↔
      reader before = .ok (value, after) := by
  rw [Foundation.mapError]
  cases reader before with
  | error error => exact ⟨nofun, nofun⟩
  | ok result => exact ⟨fun ran => congrArg _ (Except.ok.inj ran),
      fun ran => congrArg _ (Except.ok.inj ran)⟩

/-- Another text of the error does not change the advance. -/
theorem Advances.mapError {token ε' α : Type} {view : source → List token}
    {reader : StateT source (Except ε) α} (advances : Advances view reader) (translate : ε → ε') :
    Advances view (Foundation.mapError translate reader) :=
  fun before value after ran => advances before value after (mapError_ok.mp ran)

/-- Another text of the error adds nothing. -/
theorem Shrinks.mapError {token ε' α : Type} {view : source → List token}
    {reader : StateT source (Except ε) α} (shrinks : Shrinks view reader) (translate : ε → ε') :
    Shrinks view (Foundation.mapError translate reader) :=
  fun before value after ran => shrinks before value after (mapError_ok.mp ran)

end Results

end SmartMetWfs.Foundation
