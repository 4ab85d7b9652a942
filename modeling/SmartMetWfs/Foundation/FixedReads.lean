import Mathlib.Algebra.GroupWithZero.Nat
import SmartMetWfs.Foundation.StreamLogic

/-!
# Readers of a fixed number of tokens

Such a reader succeeds exactly when there are as many tokens left, and its value is a
function of those it takes. A list of them takes the tokens piece by piece.
-/

namespace SmartMetWfs.Foundation

variable {source ε token : Type} (view : source → List token)

/-- The reader takes `count` tokens and returns their value; it fails where there are less. -/
structure Takes {α : Type} (reader : StateT source (Except ε) α) (count : Nat)
    (value : List token → α) (error : ε) : Prop where
  consumes : ∀ tokens, tokens.length = count → Consumes view reader tokens (value tokens)
  exhausted : ∀ before, (view before).length < count → reader before = .error error

/-- The values of successive pieces of the tokens. -/
def pieceValues {α item : Type} (count : item → Nat) (value : item → List token → α) :
    List item → List token → List α
  | [], _ => []
  | head :: items, tokens =>
      value head (tokens.take (count head)) ::
        pieceValues count value items (tokens.drop (count head))

/-- Only so many tokens matter as the pieces have together. -/
theorem pieceValues_take {α item : Type} {count : item → Nat} {value : item → List token → α}
    (items : List item) (tokens : List token) :
    pieceValues count value items (tokens.take (items.map count).sum) =
      pieceValues count value items tokens := by
  induction items generalizing tokens with
  | nil => rfl
  | cons head items ih =>
      rw [List.map_cons, List.sum_cons, pieceValues, pieceValues, List.take_take,
        Nat.min_eq_left (Nat.le_add_right _ _), List.drop_take, Nat.add_sub_cancel_left, ih]

variable {view}

/-- Where there are enough tokens, the value is that of the first ones. -/
theorem Takes.run {α : Type} {reader : StateT source (Except ε) α} {count : Nat}
    {value : List token → α} {error : ε} (takes : Takes view reader count value error)
    {before : source} (enough : count ≤ (view before).length) :
    ∃ after, reader before = .ok (value ((view before).take count), after) ∧
      view after = (view before).drop count :=
  takes.consumes _ (List.length_take_of_le enough) before _ (List.take_append_drop count _).symm

/-- What is made of the result afterwards reads nothing more. -/
theorem Takes.bind_pure {α β : Type} {reader : StateT source (Except ε) α} {count : Nat}
    {value : List token → α} {error : ε} (takes : Takes view reader count value error)
    (post : α → β) :
    Takes view (reader >>= fun result => Pure.pure (post result)) count (post ∘ value) error where
  consumes tokens size := (takes.consumes tokens size).bind_pure post
  exhausted before short := by
    change (reader before >>= fun step => _) = _
    rw [takes.exhausted before short]
    rfl

/-- Another text of the error does not change what is read. -/
theorem Takes.mapError {ε' α : Type} {reader : StateT source (Except ε) α} {count : Nat}
    {value : List token → α} {error : ε} (takes : Takes view reader count value error)
    (translate : ε → ε') :
    Takes view (Foundation.mapError translate reader) count value (translate error) where
  consumes tokens size := (takes.consumes tokens size).mapError translate
  exhausted before short := by
    rw [Foundation.mapError, takes.exhausted before short]
    rfl

/-- One reader after the other takes the pieces, and fails at the first piece that is not there. -/
theorem Takes.mapM {α item : Type} {read : item → StateT source (Except ε) α}
    {count : item → Nat} {value : item → List token → α} {error : ε} (items : List item)
    (takes : ∀ head, Takes view (read head) (count head) (value head) error) :
    Takes view (items.mapM read) (items.map count).sum (pieceValues count value items) error := by
  induction items with
  | nil =>
      refine ⟨fun tokens size => ?_, fun before short => absurd short (Nat.not_lt_zero _)⟩
      cases List.length_eq_zero_iff.mp size
      exact .pure []
  | cons head items ih =>
      rw [List.mapM_cons, List.map_cons, List.sum_cons]
      constructor
      · intro tokens size
        have first : (tokens.take (count head)).length = count head := by
          rw [List.length_take]
          omega
        have others : (tokens.drop (count head)).length = (items.map count).sum := by
          rw [List.length_drop]
          omega
        exact (((takes head).consumes _ first).bind ((ih.consumes _ others).bind_pure _)).cast
          (List.take_append_drop _ _) rfl
      · intro before short
        change (read head before >>= fun step => _) = _
        by_cases enough : count head ≤ (view before).length
        · obtain ⟨after, ran, viewAfter⟩ := (takes head).run enough
          rw [ran]
          change (items.mapM read after >>= fun step => _) = _
          rw [ih.exhausted after (by rw [viewAfter, List.length_drop]; omega)]
          rfl
        · rw [(takes head).exhausted before (by omega)]
          rfl

end SmartMetWfs.Foundation
