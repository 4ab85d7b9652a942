import Mathlib.Order.Interval.Set.Basic
import SmartMetWfs.Core.ByteString
import SmartMetWfs.Foundation.Outcomes

/-!
# Models selected by time interval

The download handler goes through the metadata of all models. A model is left out if it is
of another producer, or if its times do not meet the requested interval: by default the
two have to overlap, and with the flag `fullInterval` the model has to cover the interval.
Whether the interval is valid is asked only after a model has been left out for its times.
-/

namespace SmartMetWfs.Handlers

open Foundation

/-- What the selection reads of the metadata of a model. -/
structure MetaData (DateTime : Type) where
  producer : ByteString
  firstTime : DateTime
  lastTime : DateTime
  deriving DecidableEq

section

variable {DateTime : Type} [LinearOrder DateTime]

/-- `producer_selected`. Without configured producers all of them are. -/
def producerSelected (producers : List ByteString) (metaInfo : MetaData DateTime) : Bool :=
  producers.isEmpty || decide (metaInfo.producer ∈ producers)

/-- `model_time_selected`. A time that is not given is not a date time. -/
def modelTimeSelected (strictIntervalCheck : Bool) (startTime endTime : Option DateTime)
    (metaInfo : MetaData DateTime) : Except ByteString Bool :=
  if strictIntervalCheck then
    if ∃ start ∈ startTime, ∃ stop ∈ endTime,
        start < metaInfo.firstTime ∨ metaInfo.lastTime < stop then .ok false
    else if startTime = none ∧ endTime ≠ none then .ok true
    else .error
      (ascii "Both or none of the parameters 'starttime' and 'endtime' must be specified!")
  else if (∃ stop ∈ endTime, stop < metaInfo.firstTime) ∨
      ∃ start ∈ startTime, metaInfo.lastTime < start then .ok false
  else .ok true

/-- The body of the loop of `update_parameters`. What is written of a selected model is given
by `describe`; nothing is if its area is not wanted. -/
def addModel {Params : Type} (describe : MetaData DateTime → Option Params)
    (producers : List ByteString) (strictIntervalCheck : Bool)
    (startTime endTime : Option DateTime) (result : List Params) (metaInfo : MetaData DateTime) :
    Except ByteString (List Params) := do
  if producerSelected producers metaInfo then
    if ← modelTimeSelected strictIntervalCheck startTime endTime metaInfo then
      return result ++ (describe metaInfo).toList
  return result

/-- `update_parameters` -/
def updateParameters {Params : Type} (describe : MetaData DateTime → Option Params)
    (producers : List ByteString) (strictIntervalCheck : Bool)
    (startTime endTime : Option DateTime) (mdList : List (MetaData DateTime)) :
    Except ByteString (List Params) :=
  mdList.foldlM (addModel describe producers strictIntervalCheck startTime endTime) []

/-- The models that `update_parameters` describes. -/
def selectModels (producers : List ByteString) (strictIntervalCheck : Bool)
    (startTime endTime : Option DateTime) (mdList : List (MetaData DateTime)) :
    Except ByteString (List (MetaData DateTime)) :=
  updateParameters some producers strictIntervalCheck startTime endTime mdList

/-! ### What is asked for -/

/-- The requested interval, which may be open at either end. -/
def requestedInterval (startTime endTime : Option DateTime) : Set DateTime :=
  {time | (∀ start ∈ startTime, start ≤ time) ∧ ∀ stop ∈ endTime, time ≤ stop}

/-- The times of a model. -/
def MetaData.interval (metaInfo : MetaData DateTime) : Set DateTime :=
  Set.Icc metaInfo.firstTime metaInfo.lastTime

/-- The model is to be selected: it overlaps the interval, or covers it if the full one is
wanted. Without an interval every model is full. -/
def Wanted (strictIntervalCheck : Bool) (startTime endTime : Option DateTime)
    (metaInfo : MetaData DateTime) : Prop :=
  if strictIntervalCheck then
    (startTime = none ∧ endTime = none) ∨
      requestedInterval startTime endTime ⊆ metaInfo.interval
  else (metaInfo.interval ∩ requestedInterval startTime endTime).Nonempty

open Classical in
/-- The selection fails for a full interval that is open at one end, and otherwise gives the
wanted models. -/
def SelectsWanted (strictIntervalCheck : Bool) (startTime endTime : Option DateTime)
    (chosen : List (MetaData DateTime)) (result : Except ByteString (List (MetaData DateTime))) :
    Prop :=
  if strictIntervalCheck ∧ startTime.isSome ≠ endTime.isSome then
    ∃ failure, result = .error failure
  else result = .ok (chosen.filter fun metaInfo =>
    decide (Wanted strictIntervalCheck startTime endTime metaInfo))

/-- The comparisons made without the flag. -/
def endsMeet (startTime endTime : Option DateTime) (metaInfo : MetaData DateTime) : Prop :=
  (∀ stop ∈ endTime, metaInfo.firstTime ≤ stop) ∧ ∀ start ∈ startTime, start ≤ metaInfo.lastTime

instance (startTime endTime : Option DateTime) (metaInfo : MetaData DateTime) :
    Decidable (endsMeet startTime endTime metaInfo) := inferInstanceAs (Decidable (_ ∧ _))

/-- Where the selection does what is asked for. Without the flag, where the ends of a model
and of the interval meet, none of the two is empty. With it, no model gets as far as the
check of the interval, or one does and only the end is missing. -/
def SelectionHolds (strictIntervalCheck : Bool) (startTime endTime : Option DateTime)
    (chosen : List (MetaData DateTime)) : Prop :=
  match strictIntervalCheck, startTime, endTime with
  | false, startTime, endTime => ∀ metaInfo ∈ chosen, endsMeet startTime endTime metaInfo →
      metaInfo.firstTime ≤ metaInfo.lastTime ∧ ∀ start ∈ startTime, ∀ stop ∈ endTime, start ≤ stop
  | true, some start, some stop => ∀ metaInfo ∈ chosen, ¬Set.Icc start stop ⊆ metaInfo.interval
  | true, some _, none => chosen ≠ []
  | true, none, some _ => False
  | true, none, none => chosen = []

/-! ### The loop -/

section

variable {producers : List ByteString} {strictIntervalCheck : Bool}
  {startTime endTime : Option DateTime}
  {mdList : List (MetaData DateTime)}

/-- If no check fails, the models that pass both are described. -/
theorem updateParameters_eq_ok {Params : Type} (describe : MetaData DateTime → Option Params)
    {test : MetaData DateTime → Bool}
    (tested : ∀ metaInfo ∈ mdList.filter (producerSelected producers),
      modelTimeSelected strictIntervalCheck startTime endTime metaInfo = .ok (test metaInfo)) :
    updateParameters describe producers strictIntervalCheck startTime endTime mdList =
      .ok (((mdList.filter (producerSelected producers)).filter test).filterMap describe) := by
  have general : ∀ before,
      mdList.foldlM (addModel describe producers strictIntervalCheck startTime endTime) before =
        .ok (before ++
          ((mdList.filter (producerSelected producers)).filter test).filterMap describe) := by
    induction mdList with
    | nil => exact fun before => congrArg Except.ok (List.append_nil before).symm
    | cons metaInfo mdList ih =>
        intro before
        rw [List.foldlM_cons, addModel]
        by_cases isProducer : producerSelected producers metaInfo = true
        · rw [List.filter_cons_of_pos isProducer] at tested ⊢
          have rest := fun other member => tested other (List.mem_cons_of_mem metaInfo member)
          rw [if_pos isProducer, tested metaInfo List.mem_cons_self]
          cases passes : test metaInfo with
          | true =>
              have added : before ++ (metaInfo ::
                    (mdList.filter (producerSelected producers)).filter test).filterMap describe =
                  (before ++ (describe metaInfo).toList) ++
                    ((mdList.filter (producerSelected producers)).filter test).filterMap
                      describe := by
                rw [List.append_assoc]
                cases described : describe metaInfo <;> simp [described]
              rw [List.filter_cons_of_pos passes, added]
              exact ih rest (before ++ (describe metaInfo).toList)
          | false =>
              rw [List.filter_cons_of_neg (by rw [passes]; exact Bool.false_ne_true)]
              exact ih rest before
        · rw [List.filter_cons_of_neg isProducer] at tested ⊢
          rw [if_neg isProducer]
          exact ih tested before
  exact general []

/-- If a model is checked and the check fails, so does the loop. -/
theorem updateParameters_eq_error {Params : Type} (describe : MetaData DateTime → Option Params)
    {metaInfo : MetaData DateTime} {failure : ByteString}
    (member : metaInfo ∈ mdList.filter (producerSelected producers))
    (fails : modelTimeSelected strictIntervalCheck startTime endTime metaInfo = .error failure) :
    ∃ failure, updateParameters describe producers strictIntervalCheck startTime endTime mdList =
      .error failure := by
  obtain ⟨inList, isProducer⟩ := List.mem_filter.mp member
  cases ran : updateParameters describe producers strictIntervalCheck startTime endTime mdList with
  | error failure => exact ⟨failure, rfl⟩
  | ok selected =>
      obtain ⟨result, next, stepped⟩ := step_ok_of_foldlM ran inList
      rw [addModel, if_pos isProducer, fails] at stepped
      cases stepped

/-- What is written is written of the selected models. -/
theorem updateParameters_eq_map {Params : Type} (describe : MetaData DateTime → Option Params) :
    updateParameters describe producers strictIntervalCheck startTime endTime mdList =
      (selectModels producers strictIntervalCheck startTime endTime mdList).map
        (List.filterMap describe) := by
  have general : ∀ before : List (MetaData DateTime),
      mdList.foldlM (addModel describe producers strictIntervalCheck startTime endTime)
          (before.filterMap describe) =
        (mdList.foldlM (addModel some producers strictIntervalCheck startTime endTime) before).map
          (List.filterMap describe) := by
    induction mdList with
    | nil => exact fun before => rfl
    | cons metaInfo mdList ih =>
        intro before
        rw [List.foldlM_cons, List.foldlM_cons, addModel, addModel]
        by_cases isProducer : producerSelected producers metaInfo = true
        · rw [if_pos isProducer, if_pos isProducer]
          cases modelTimeSelected strictIntervalCheck startTime endTime metaInfo with
          | error failure => rfl
          | ok passes =>
              cases passes with
              | true =>
                  have added : before.filterMap describe ++ (describe metaInfo).toList =
                      (before ++ [metaInfo]).filterMap describe := by
                    rw [List.filterMap_append]
                    cases described : describe metaInfo <;> simp [described]
                  change List.foldlM _ (before.filterMap describe ++ (describe metaInfo).toList) _ =
                    _
                  rw [added]
                  exact ih (before ++ [metaInfo])
              | false => exact ih before
        · rw [if_neg isProducer, if_neg isProducer]
          exact ih before
  exact general []

/-- The selected models, if no check fails. -/
theorem selectModels_eq_ok {test : MetaData DateTime → Bool}
    (tested : ∀ metaInfo ∈ mdList.filter (producerSelected producers),
      modelTimeSelected strictIntervalCheck startTime endTime metaInfo = .ok (test metaInfo)) :
    selectModels producers strictIntervalCheck startTime endTime mdList =
      .ok ((mdList.filter (producerSelected producers)).filter test) := by
  rw [selectModels, updateParameters_eq_ok some tested, List.filterMap_some]

end

/-! ### The two modes -/

section

variable {producers : List ByteString} {mdList : List (MetaData DateTime)}

/-- Two filters give the same list only if they agree on it. -/
theorem filter_eq_filter {α : Type} {items : List α} {test test' : α → Bool} :
    items.filter test = items.filter test' ↔ ∀ item ∈ items, test item = test' item := by
  constructor
  · intro same item member
    have inBoth : item ∈ items.filter test ↔ item ∈ items.filter test' := by rw [same]
    rw [List.mem_filter, List.mem_filter] at inBoth
    exact Bool.eq_iff_iff.mpr ⟨fun holds => (inBoth.mp ⟨member, holds⟩).2,
      fun holds => (inBoth.mpr ⟨member, holds⟩).2⟩
  · exact List.filter_congr

/-- A model is selected when its interval meets the one that is wanted. -/
theorem modelTimeSelected_loose (startTime endTime : Option DateTime)
    (metaInfo : MetaData DateTime) :
    modelTimeSelected false startTime endTime metaInfo =
      .ok (decide (endsMeet startTime endTime metaInfo)) := by
  rw [modelTimeSelected, if_neg Bool.false_ne_true]
  split
  · next apart =>
      refine congrArg Except.ok (decide_eq_false fun meet => ?_).symm
      rcases apart with ⟨stop, isStop, before⟩ | ⟨start, isStart, after⟩
      · exact absurd (meet.1 stop isStop) (not_le.mpr before)
      · exact absurd (meet.2 start isStart) (not_le.mpr after)
  · next together =>
      rw [not_or] at together
      refine congrArg Except.ok
        (decide_eq_true ⟨fun stop isStop => ?_, fun start isStart => ?_⟩).symm
      · exact not_lt.mp fun before => together.1 ⟨stop, isStop, before⟩
      · exact not_lt.mp fun after => together.2 ⟨start, isStart, after⟩

/-- Intervals overlap if their ends meet and none of them is empty. -/
theorem wanted_loose (startTime endTime : Option DateTime) (metaInfo : MetaData DateTime) :
    Wanted false startTime endTime metaInfo ↔ endsMeet startTime endTime metaInfo ∧
      metaInfo.firstTime ≤ metaInfo.lastTime ∧
        ∀ start ∈ startTime, ∀ stop ∈ endTime, start ≤ stop := by
  rw [Wanted, if_neg Bool.false_ne_true]
  constructor
  · rintro ⟨time, ⟨afterFirst, beforeLast⟩, afterStart, beforeStop⟩
    exact ⟨⟨fun stop isStop => afterFirst.trans (beforeStop stop isStop),
      fun start isStart => (afterStart start isStart).trans beforeLast⟩,
        afterFirst.trans beforeLast,
      fun start isStart stop isStop => (afterStart start isStart).trans (beforeStop stop isStop)⟩
  · rintro ⟨⟨meetStop, meetStart⟩, ordered, requested⟩
    cases startTime with
    | none =>
        exact ⟨metaInfo.firstTime, ⟨le_rfl, ordered⟩, nofun, meetStop⟩
    | some start =>
        refine ⟨max metaInfo.firstTime start,
          ⟨le_max_left _ _, max_le ordered (meetStart start rfl)⟩,
          ?_, fun stop isStop => max_le (meetStop stop isStop) (requested start rfl stop isStop)⟩
        rintro start' ⟨⟩
        exact le_max_right _ _

/-- What is selected loosely is what is wanted. -/
theorem loose_iff (startTime endTime : Option DateTime) :
    SelectsWanted false startTime endTime (mdList.filter (producerSelected producers))
        (selectModels producers false startTime endTime mdList) ↔
      SelectionHolds false startTime endTime (mdList.filter (producerSelected producers)) := by
  have selected : selectModels producers false startTime endTime mdList =
      .ok ((mdList.filter (producerSelected producers)).filter fun metaInfo =>
        decide (endsMeet startTime endTime metaInfo)) :=
    selectModels_eq_ok fun metaInfo _ => modelTimeSelected_loose startTime endTime metaInfo
  have loose : ¬(false = true ∧ startTime.isSome ≠ endTime.isSome) := fun strict =>
    Bool.false_ne_true strict.1
  rw [SelectsWanted, if_neg loose, selected, Except.ok.injEq, filter_eq_filter]
  refine forall₂_congr fun metaInfo _ => ?_
  rw [decide_eq_decide, wanted_loose]
  exact ⟨fun same meet => (same.mp meet).2, fun holds => ⟨fun meet => ⟨meet, holds meet⟩, And.left⟩⟩

/-- With the flag, models that do not cover the interval are left out before it is checked. -/
theorem modelTimeSelected_strict (start stop : DateTime) (metaInfo : MetaData DateTime) :
    modelTimeSelected true (some start) (some stop) metaInfo =
      if metaInfo.firstTime ≤ start ∧ stop ≤ metaInfo.lastTime then
        .error (ascii "Both or none of the parameters 'starttime' and 'endtime' must be specified!")
      else .ok false := by
  have outside : (∃ start' ∈ some start, ∃ stop' ∈ some stop,
      start' < metaInfo.firstTime ∨ metaInfo.lastTime < stop') ↔
        ¬(metaInfo.firstTime ≤ start ∧ stop ≤ metaInfo.lastTime) := by
    rw [not_and_or, not_le, not_le]
    simp
  rw [modelTimeSelected, if_pos rfl]
  simp only [outside, ite_not]
  rfl

/-- What is selected strictly for a closed interval is what is wanted. -/
theorem strict_closed_iff (start stop : DateTime) :
    SelectsWanted true (some start) (some stop) (mdList.filter (producerSelected producers))
        (selectModels producers true (some start) (some stop) mdList) ↔
      ∀ metaInfo ∈ mdList.filter (producerSelected producers),
        ¬Set.Icc start stop ⊆ metaInfo.interval := by
  have closed :
      ¬(true = true ∧ (some start).isSome ≠ (some stop).isSome) := fun open_ => open_.2 rfl
  have wanted : ∀ metaInfo : MetaData DateTime, Wanted true (some start) (some stop) metaInfo ↔
      Set.Icc start stop ⊆ metaInfo.interval := by
    intro metaInfo
    have interval : requestedInterval (some start) (some stop) = Set.Icc start stop := by
      ext time
      simp [requestedInterval]
    rw [Wanted, if_pos rfl, interval]
    simp
  rw [SelectsWanted, if_neg closed]
  by_cases compared : ∃ metaInfo ∈ mdList.filter (producerSelected producers),
      metaInfo.firstTime ≤ start ∧ stop ≤ metaInfo.lastTime
  · obtain ⟨metaInfo, member, covers⟩ := compared
    obtain ⟨failure, failed⟩ := updateParameters_eq_error some member
      ((modelTimeSelected_strict start stop metaInfo).trans (if_pos covers))
    rw [selectModels, failed]
    constructor
    · intro selected
      cases selected
    · intro none
      exact (none metaInfo member (Set.Icc_subset_Icc covers.1 covers.2)).elim
  · have selected : selectModels producers true (some start) (some stop) mdList =
        .ok ((mdList.filter (producerSelected producers)).filter fun _ => false) :=
      selectModels_eq_ok fun metaInfo member =>
        (modelTimeSelected_strict start stop metaInfo).trans
          (if_neg fun covers => compared ⟨metaInfo, member, covers⟩)
    rw [selected, Except.ok.injEq, filter_eq_filter]
    refine forall₂_congr fun metaInfo _ => ?_
    rw [eq_comm, decide_eq_false_iff_not, wanted]

/-- With the flag and an interval that is not closed, every model gets to the check. -/
theorem modelTimeSelected_open {startTime endTime : Option DateTime}
    (open_ : startTime = none ∨ endTime = none) (metaInfo : MetaData DateTime) :
    modelTimeSelected true startTime endTime metaInfo =
      if startTime = none ∧ endTime ≠ none then .ok true else .error
        (ascii "Both or none of the parameters 'starttime' and 'endtime' must be specified!") := by
  have given : ¬∃ start ∈ startTime, ∃ stop ∈ endTime,
      start < metaInfo.firstTime ∨ metaInfo.lastTime < stop := by
    rintro ⟨start, isStart, stop, isStop, _⟩
    rcases open_ with rfl | rfl
    · cases isStart
    · cases isStop
  rw [modelTimeSelected, if_pos rfl, if_neg given]

/-- Without models of these producers nothing is checked. -/
theorem selectModels_of_none (none : mdList.filter (producerSelected producers) = []) :
    selectModels producers strictIntervalCheck startTime endTime mdList = .ok [] := by
  have selected : selectModels producers strictIntervalCheck startTime endTime mdList =
      .ok ((mdList.filter (producerSelected producers)).filter fun _ => true) :=
    selectModels_eq_ok fun metaInfo member => absurd (none ▸ member) List.not_mem_nil
  rw [selected, none, List.filter_nil]

/-- With the flag the check fails for every model, unless only the end is given. -/
theorem strict_open_fails {startTime endTime : Option DateTime}
    (open_ : startTime = none ∨ endTime = none) (checked : ¬(startTime = none ∧ endTime ≠ none)) :
    (∃ failure, selectModels producers true startTime endTime mdList = .error failure) ↔
      mdList.filter (producerSelected producers) ≠ [] := by
  constructor
  · rintro ⟨failure, failed⟩ none
    rw [selectModels_of_none none] at failed
    cases failed
  · intro some
    obtain ⟨metaInfo, member⟩ := List.exists_mem_of_ne_nil _ some
    exact updateParameters_eq_error _ member
      ((modelTimeSelected_open open_ metaInfo).trans (if_neg checked))

/-- With the flag and only the end every model is selected. -/
theorem strict_until_fails (stop : DateTime) :
    ¬SelectsWanted true none (some stop) (mdList.filter (producerSelected producers))
      (selectModels producers true none (some stop) mdList) := by
  have selected : selectModels producers true none (some stop) mdList =
      .ok ((mdList.filter (producerSelected producers)).filter fun _ => true) :=
    selectModels_eq_ok fun metaInfo _ =>
      (modelTimeSelected_open (.inl rfl) metaInfo).trans (if_pos ⟨rfl, nofun⟩)
  rw [SelectsWanted, if_pos ⟨rfl, nofun⟩, selected]
  rintro ⟨failure, ⟨⟩⟩

/-- With the flag and no interval the check fails as soon as there is a model. -/
theorem strict_whole_iff :
    SelectsWanted true none none (mdList.filter (producerSelected producers))
        (selectModels producers true none none mdList) ↔
      mdList.filter (producerSelected producers) = [] := by
  rw [SelectsWanted, if_neg fun open_ => open_.2 rfl]
  constructor
  · intro selected
    by_contra some
    obtain ⟨failure, failed⟩ := (strict_open_fails (.inl rfl) fun given => given.2 rfl).mpr some
    rw [failed] at selected
    cases selected
  · intro empty
    rw [selectModels_of_none empty, empty, List.filter_nil]

/-- What is written is written of the selected models, and the selection does what is asked for
under these conditions only. -/
theorem selection_iff (producers : List ByteString) (strictIntervalCheck : Bool)
    (startTime endTime : Option DateTime) (mdList : List (MetaData DateTime)) :
    (∀ (Params : Type) (describe : MetaData DateTime → Option Params),
      updateParameters describe producers strictIntervalCheck startTime endTime mdList =
        (selectModels producers strictIntervalCheck startTime endTime mdList).map
          (List.filterMap describe)) ∧
    (SelectsWanted strictIntervalCheck startTime endTime
        (mdList.filter (producerSelected producers))
        (selectModels producers strictIntervalCheck startTime endTime mdList) ↔
      SelectionHolds strictIntervalCheck startTime endTime
        (mdList.filter (producerSelected producers))) := by
  refine ⟨fun _ describe => updateParameters_eq_map describe, ?_⟩
  cases strictIntervalCheck with
  | false => exact loose_iff startTime endTime
  | true =>
      cases startTime with
      | some start =>
          cases endTime with
          | some stop => exact strict_closed_iff start stop
          | none =>
              rw [SelectsWanted, if_pos ⟨rfl, nofun⟩]
              exact strict_open_fails (.inr rfl) nofun
      | none =>
          cases endTime with
          | some stop => exact iff_of_false (strict_until_fails stop) id
          | none => exact strict_whole_iff

end

end

/-- The full interval is in the model, and the request is refused. -/
theorem fullInterval_refused :
    selectModels [] true (some 2) (some 5) [(⟨ascii "hirlam", 0, 9⟩ : MetaData Nat)] =
      .error (ascii "Both or none of the parameters 'starttime' and 'endtime' must be specified!") ∧
    ¬SelectsWanted true (some 2) (some 5) [(⟨ascii "hirlam", 0, 9⟩ : MetaData Nat)]
      (selectModels [] true (some 2) (some 5) [⟨ascii "hirlam", 0, 9⟩]) := by
  refine ⟨rfl, ?_⟩
  rw [SelectsWanted, if_neg fun open_ => open_.2 rfl]
  intro selected
  cases selected

end SmartMetWfs.Handlers
