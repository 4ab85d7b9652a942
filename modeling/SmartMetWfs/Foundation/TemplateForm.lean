import SmartMetWfs.Foundation.Outcomes

/-!
# Text templates

A template is a text in which an escape symbol makes the next symbol stand for itself and
a mark begins a reference. Expanding a template copies symbols and replaces references by
their values. How a reference is written is left open; all that is asked is that reading
one takes exactly its spelling off the text.
-/

namespace SmartMetWfs.Foundation

/-- The special symbols of a template and the spelling of its references. -/
structure TemplateForm (σ ρ ε : Type) where
  escape : σ
  mark : σ
  distinct : escape ≠ mark
  /-- The error of an escape symbol at the end of a template. -/
  unfinished : ε
  /-- Read the reference whose mark has just been passed. -/
  read : List σ → Except ε (ρ × List σ)
  spell : ρ → List σ
  read_eq_ok : ∀ {text rest : List σ} {ref : ρ},
    read text = .ok (ref, rest) ↔ text = spell ref ++ rest

namespace TemplateForm

variable {σ ρ ε : Type} (form : TemplateForm σ ρ ε)

/-- A reference is read as it is spelt, whatever follows. -/
theorem read_spell (ref : ρ) (rest : List σ) :
    form.read (form.spell ref ++ rest) = .ok (ref, rest) :=
  form.read_eq_ok.mpr rfl

/-- Reading a reference does not make the text longer. -/
theorem length_read {text rest : List σ} {ref : ρ} (found : form.read text = .ok (ref, rest)) :
    rest.length ≤ text.length := by
  rw [form.read_eq_ok.mp found, List.length_append]
  exact Nat.le_add_left _ _

/-- The part of a template that one round of the expansion deals with. -/
inductive Segment where
  | ordinary (symbol : σ) (plain : symbol ≠ form.escape ∧ symbol ≠ form.mark)
  | escaped (symbol : σ)
  | reference (ref : ρ)

variable {form}

/-- How a segment is written. -/
def Segment.spell : form.Segment → List σ
  | .ordinary symbol _ => [symbol]
  | .escaped symbol => [form.escape, symbol]
  | .reference ref => form.mark :: form.spell ref

/-- What a segment stands for when references stand for the given texts. -/
def Segment.text (valueOf : ρ → List σ) : form.Segment → List σ
  | .ordinary symbol _ => [symbol]
  | .escaped symbol => [symbol]
  | .reference ref => valueOf ref

/-- The segment that a text begins with is determined. -/
theorem Segment.spell_append_inj {segment other : form.Segment} {text text' : List σ}
    (same : segment.spell ++ text = other.spell ++ text') : segment = other ∧ text = text' := by
  cases segment with
  | ordinary symbol plain =>
      cases other with
      | ordinary symbol' plain' =>
          change symbol :: text = symbol' :: text' at same
          obtain ⟨rfl, rest⟩ := List.cons.inj same
          exact ⟨rfl, rest⟩
      | escaped symbol' => exact absurd (List.cons.inj same).1 plain.1
      | reference ref' => exact absurd (List.cons.inj same).1 plain.2
  | escaped symbol =>
      cases other with
      | ordinary symbol' plain' => exact absurd (List.cons.inj same).1.symm plain'.1
      | escaped symbol' =>
          change form.escape :: symbol :: text = form.escape :: symbol' :: text' at same
          obtain ⟨rfl, rest⟩ := List.cons.inj (List.cons.inj same).2
          exact ⟨rfl, rest⟩
      | reference ref' => exact absurd (List.cons.inj same).1 form.distinct
  | reference ref =>
      cases other with
      | ordinary symbol' plain' => exact absurd (List.cons.inj same).1.symm plain'.2
      | escaped symbol' => exact absurd (List.cons.inj same).1.symm form.distinct
      | reference ref' =>
          have sameBody : form.spell ref ++ text = form.spell ref' ++ text' :=
            (List.cons.inj same).2
          have reads := (form.read_spell ref text).symm.trans
            ((congrArg form.read sameBody).trans (form.read_spell ref' text'))
          obtain ⟨rfl, rest⟩ := Prod.mk.inj (Except.ok.inj reads)
          exact ⟨rfl, rest⟩

/-- A template is made of segments in one way only. -/
theorem segments_unique {segments others : List form.Segment}
    (same : segments.flatMap Segment.spell = others.flatMap Segment.spell) : segments = others := by
  induction segments generalizing others with
  | nil =>
      cases others with
      | nil => rfl
      | cons other others => cases other <;> cases same
  | cons segment segments ih =>
      cases others with
      | nil => cases segment <;> cases same
      | cons other others =>
          rw [List.flatMap_cons, List.flatMap_cons] at same
          obtain ⟨rfl, rest⟩ := Segment.spell_append_inj same
          rw [ih rest]

section Meaning

variable (met : ρ → Prop) (valueOf : ρ → List σ)

/-- A reference has a value exactly when its requirement is met. -/
def Valued (value : ρ → Except ε (List σ)) (met : ρ → Prop) (valueOf : ρ → List σ) : Prop :=
  ∀ ref replaced, value ref = .ok replaced ↔ met ref ∧ replaced = valueOf ref

variable (form) in
/-- The text is a sequence of segments whose references all have their requirement met, and
the expansion is what they stand for one after the other. -/
def Expands (text expanded : List σ) : Prop :=
  ∃ segments : List form.Segment, segments.flatMap Segment.spell = text ∧
    (∀ ref, .reference ref ∈ segments → met ref) ∧
      expanded = segments.flatMap (Segment.text valueOf)

variable {met valueOf}

theorem Expands.nil : form.Expands met valueOf [] [] := ⟨[], rfl, by simp, rfl⟩

/-- A segment in front of a text that expands. -/
theorem Expands.cons {text expanded : List σ} (segment : form.Segment)
    (segmentMet : ∀ ref, segment = .reference ref → met ref)
    (rest : form.Expands met valueOf text expanded) :
    form.Expands met valueOf (segment.spell ++ text) (segment.text valueOf ++ expanded) := by
  obtain ⟨segments, rfl, allMet, rfl⟩ := rest
  refine ⟨segment :: segments, List.flatMap_cons, fun ref member => ?_, List.flatMap_cons.symm⟩
  rcases List.mem_cons.mp member with same | later
  · exact segmentMet ref same.symm
  · exact allMet ref later

end Meaning

variable [DecidableEq σ] (form)

/-- Expand a template from left to right; the first error ends it. -/
def expand (value : ρ → Except ε (List σ)) : List σ → Except ε (List σ)
  | [] => .ok []
  | symbol :: text =>
      if symbol = form.escape then
        match text with
        | [] => .error form.unfinished
        | escaped :: text => (escaped :: ·) <$> expand value text
      else if symbol = form.mark then
        match _found : form.read text with
        | .error error => .error error
        | .ok (ref, rest) => do
            let replaced ← value ref
            (replaced ++ ·) <$> expand value rest
      else
        (symbol :: ·) <$> expand value text
termination_by text => text.length
decreasing_by
  · simp only [List.length_cons]
    omega
  · exact Nat.lt_succ_of_le (form.length_read _found)
  · simp

variable {form} {value : ρ → Except ε (List σ)}

@[simp] theorem expand_nil : form.expand value [] = .ok [] := by
  rw [expand]

/-- A symbol that means nothing stays. -/
theorem expand_ordinary {symbol : σ} (plain : symbol ≠ form.escape ∧ symbol ≠ form.mark)
    (text : List σ) :
    form.expand value (symbol :: text) = (symbol :: ·) <$> form.expand value text := by
  rw [expand.eq_def]
  exact (if_neg plain.1).trans (if_neg plain.2)

/-- An escaped symbol stays without the escape. -/
theorem expand_escaped (symbol : σ) (text : List σ) :
    form.expand value (form.escape :: symbol :: text) =
      (symbol :: ·) <$> form.expand value text := by
  rw [expand.eq_def]
  exact if_pos rfl

/-- The value of a reference stands in its place. -/
theorem expand_reference (ref : ρ) (rest : List σ) :
    form.expand value (form.mark :: (form.spell ref ++ rest)) =
      value ref >>= fun replaced => (replaced ++ ·) <$> form.expand value rest := by
  rw [expand.eq_def]
  refine ((if_neg form.distinct.symm).trans (if_pos rfl)).trans ?_
  split
  · next failed =>
      rw [form.read_spell] at failed
      cases failed
  · next found =>
      rw [form.read_spell] at found
      cases found
      rfl

variable {met : ρ → Prop} {valueOf : ρ → List σ}

/-- Segments are expanded one after the other when their references have values. -/
theorem expand_segments (valued : Valued value met valueOf) (segments : List form.Segment)
    (allMet : ∀ ref, .reference ref ∈ segments → met ref) :
    form.expand value (segments.flatMap Segment.spell) =
      .ok (segments.flatMap (Segment.text valueOf)) := by
  induction segments with
  | nil => exact expand_nil
  | cons segment segments ih =>
      have rest := ih fun ref member => allMet ref (List.mem_cons_of_mem _ member)
      rw [List.flatMap_cons, List.flatMap_cons]
      cases segment with
      | ordinary symbol plain =>
          refine (expand_ordinary plain (segments.flatMap Segment.spell)).trans ?_
          rw [rest]
          rfl
      | escaped symbol =>
          refine (expand_escaped symbol (segments.flatMap Segment.spell)).trans ?_
          rw [rest]
          rfl
      | reference ref =>
          refine (expand_reference ref _).trans ?_
          rw [(valued ref _).mpr ⟨allMet ref (List.mem_cons_self ..), rfl⟩, rest]
          rfl

/-- A template expands exactly when it is made of segments whose references have their
requirement met, and then to what the segments stand for. -/
theorem expand_eq_ok_iff (valued : Valued value met valueOf) {text expanded : List σ} :
    form.expand value text = .ok expanded ↔ form.Expands met valueOf text expanded := by
  constructor
  · intro expands
    fun_induction expand form value text generalizing expanded with
    | case1 =>
        cases expands
        exact .nil
    | case2 => cases expands
    | case3 escaped text ih =>
        obtain ⟨inner, ran, rfl⟩ := ok_of_map expands
        exact .cons (.escaped escaped) (fun _ absurd_ => nomatch absurd_) (ih ran)
    | case4 => cases expands
    | case5 text ref rest found _ ih =>
        obtain ⟨replaced, isValue, next⟩ := ok_of_bind expands
        obtain ⟨inner, ran, rfl⟩ := ok_of_map next
        obtain ⟨isMet, rfl⟩ := (valued ref replaced).mp isValue
        rw [form.read_eq_ok.mp found]
        exact .cons (.reference ref) (fun _ same => by cases same; exact isMet) (ih ran)
    | case6 symbol text notEscape notMark ih =>
        obtain ⟨inner, ran, rfl⟩ := ok_of_map expands
        exact .cons (.ordinary symbol ⟨notEscape, notMark⟩) (fun _ absurd_ => nomatch absurd_)
          (ih ran)
  · intro ⟨segments, spelled, allMet, isExpansion⟩
    rw [← spelled, isExpansion]
    exact expand_segments valued segments allMet

variable (form) in
/-- Put the escape symbol before every special symbol. -/
def protect (text : List σ) : List σ :=
  text.flatMap fun symbol =>
    if symbol = form.escape ∨ symbol = form.mark then [form.escape, symbol] else [symbol]

/-- A protected text expands to itself, whatever references stand for. -/
theorem expand_protect (text : List σ) : form.expand value (form.protect text) = .ok text := by
  induction text with
  | nil => exact expand_nil
  | cons symbol text ih =>
      rw [protect, List.flatMap_cons]
      split
      · refine (expand_escaped symbol (form.protect text)).trans ?_
        rw [ih]
        rfl
      · next plain =>
          refine (expand_ordinary (not_or.mp plain) (form.protect text)).trans ?_
          rw [ih]
          rfl

end TemplateForm

end SmartMetWfs.Foundation
