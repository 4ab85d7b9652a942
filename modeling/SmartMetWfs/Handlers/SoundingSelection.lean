import Mathlib.Algebra.Order.Ring.Int
import SmartMetWfs.Foundation.OrderedMap

/-!
# Selection of soundings

`parseSoundingQuery` enters the soundings of a query result into a map by their ids. If only
the latest ones are asked for, this is the first one of each station, for the result has the
newest message of a station first. Then the soundings of type 1 are removed that have a
sounding of type 2 beside them, among those that have been entered.
-/

namespace SmartMetWfs.Handlers

open Foundation

/-- What is kept of a sounding. -/
structure RadioSounding (DateTime : Type) where
  stationId : Int
  messageTime : DateTime
  launchTime : DateTime
  soundingEnd : DateTime
  soundingType : Int
  deriving DecidableEq

/-- A row of the query result. -/
structure SoundingRow (DateTime : Type) where
  soundingId : Int
  sounding : RadioSounding DateTime
  deriving DecidableEq

/-- The entry of a row. -/
def SoundingRow.entry {DateTime : Type} (row : SoundingRow DateTime) :
    Int × RadioSounding DateTime :=
  (row.soundingId, row.sounding)

/-- A result of the query: the id identifies a sounding, and the messages of a station are in
descending order. -/
structure SoundingResult (DateTime : Type) [LinearOrder DateTime] where
  rows : List (SoundingRow DateTime)
  identified : ∀ row ∈ rows, ∀ other ∈ rows, row.soundingId = other.soundingId → row = other
  ordered : rows.Pairwise fun earlier later =>
    earlier.sounding.stationId = later.sounding.stationId →
      later.sounding.messageTime ≤ earlier.sounding.messageTime

/-- The soundings under their identifiers. -/
abbrev RadioSoundingMap (DateTime : Type) := OrderedMap Int (RadioSounding DateTime)

section

variable {DateTime : Type} [DecidableEq DateTime]

/-- The body of the loop over the result. -/
def enterSounding (latest : Bool) (state : OrderedSet Int × RadioSoundingMap DateTime)
    (row : SoundingRow DateTime) : OrderedSet Int × RadioSoundingMap DateTime :=
  if latest = false ∨ (latest = true ∧ state.1.contains row.sounding.stationId = false) then
    (state.1.insert row.sounding.stationId, state.2.emplace row.soundingId row.sounding)
  else state

/-- A sounding of type 2 stands beside this one. -/
def shouldHide (curr it : RadioSounding DateTime) : Bool :=
  it.stationId = curr.stationId ∧ it.messageTime = curr.messageTime ∧ it.soundingType = 2

/-- The body of the loop over the map. The entry it has come to may be erased. -/
def hideSounding (radioSoundingMap : RadioSoundingMap DateTime)
    (curr : Int × RadioSounding DateTime) : RadioSoundingMap DateTime :=
  if curr.2.soundingType = 1 ∧ radioSoundingMap.entries.any fun it => shouldHide curr.2 it.2 then
    radioSoundingMap.erase curr.1
  else radioSoundingMap

/-- `parseSoundingQuery` -/
def parseSoundingQuery (latest : Bool) (rows : List (SoundingRow DateTime)) :
    RadioSoundingMap DateTime :=
  let entered := (rows.foldl (enterSounding latest) (OrderedMap.empty, OrderedMap.empty)).2
  entered.entries.foldl hideSounding entered

end

/-! ### What is asked for -/

section

variable {DateTime : Type} [DecidableEq DateTime]

/-- A sounding of type 1 with one of type 2 of the same station and time in the result. -/
def Hidden (rows : List (SoundingRow DateTime)) (row : SoundingRow DateTime) : Prop :=
  row.sounding.soundingType = 1 ∧ ∃ other ∈ rows, shouldHide row.sounding other.sounding = true

end

/-- The soundings that are not hidden, or the newest one of them for each station. -/
def SelectsSoundings {DateTime : Type} [LinearOrder DateTime] (latest : Bool)
    (rows : List (SoundingRow DateTime)) (radioSoundingMap : RadioSoundingMap DateTime) : Prop :=
  if latest then
    (∀ entry ∈ radioSoundingMap.entries, ∃ row ∈ rows, entry = row.entry ∧ ¬Hidden rows row ∧
      ∀ other ∈ rows, other.sounding.stationId = row.sounding.stationId → ¬Hidden rows other →
        other.sounding.messageTime ≤ row.sounding.messageTime) ∧
    ∀ row ∈ rows, ∃! entry, entry ∈ radioSoundingMap.entries ∧
      entry.2.stationId = row.sounding.stationId
  else ∀ entry, entry ∈ radioSoundingMap.entries ↔ ∃ row ∈ rows, entry = row.entry ∧
    ¬Hidden rows row

/-! ### The first rows -/

section

variable {DateTime : Type}

/-- The row is the first one of its station. -/
def IsFirst (rows : List (SoundingRow DateTime)) (row : SoundingRow DateTime) : Prop :=
  ∃ before after, rows = before ++ row :: after ∧
    ∀ earlier ∈ before, earlier.sounding.stationId ≠ row.sounding.stationId

/-- The rows that are entered. -/
def Entered (latest : Bool) (rows : List (SoundingRow DateTime)) (row : SoundingRow DateTime) :
    Prop :=
  if latest then IsFirst rows row else row ∈ rows

/-- The first row of a station is a row. -/
theorem IsFirst.mem {rows : List (SoundingRow DateTime)} {row : SoundingRow DateTime}
    (first : IsFirst rows row) : row ∈ rows := by
  obtain ⟨before, after, rfl, _⟩ := first
  exact List.mem_append_right before List.mem_cons_self

/-- An entered row is a row. -/
theorem Entered.mem {latest : Bool} {rows : List (SoundingRow DateTime)}
    {row : SoundingRow DateTime}
    (entered : Entered latest rows row) : row ∈ rows := by
  unfold Entered at entered
  split at entered
  · exact entered.mem
  · exact entered

/-- One more row is the first of its station if none before it is. -/
theorem isFirst_concat {done : List (SoundingRow DateTime)} {row other : SoundingRow DateTime} :
    IsFirst (done ++ [row]) other ↔ IsFirst done other ∨
      (other = row ∧ ∀ earlier ∈ done, earlier.sounding.stationId ≠ row.sounding.stationId) := by
  constructor
  · rintro ⟨before, after, split, none⟩
    rcases List.eq_nil_or_concat' after with rfl | ⟨after', last, rfl⟩
    · obtain ⟨rfl, rfl⟩ := List.append_inj' split rfl |>.imp_right List.singleton_inj.mp
      exact .inr ⟨rfl, none⟩
    · rw [← List.cons_append, ← List.append_assoc] at split
      exact .inl ⟨before, after', (List.append_inj' split rfl).1, none⟩
  · rintro (⟨before, after, rfl, none⟩ | ⟨rfl, none⟩)
    · exact ⟨before, after ++ [row], by rw [List.append_assoc, List.cons_append], none⟩
    · exact ⟨done, [], rfl, none⟩

/-- One more row is entered if it is asked for. -/
theorem entered_concat {latest : Bool} {done : List (SoundingRow DateTime)}
    {row other : SoundingRow DateTime} :
    Entered latest (done ++ [row]) other ↔ Entered latest done other ∨ (other = row ∧
      (latest = true → ∀ earlier ∈ done, earlier.sounding.stationId ≠ row.sounding.stationId)) := by
  cases latest with
  | false => simp [Entered]
  | true => simpa [Entered] using isFirst_concat

/-- Two first rows of one station are one row. -/
theorem IsFirst.unique {rows : List (SoundingRow DateTime)} {row other : SoundingRow DateTime}
    (first : IsFirst rows row) (first' : IsFirst rows other)
    (same : row.sounding.stationId = other.sounding.stationId) : row = other := by
  obtain ⟨before, after, rfl, none⟩ := first
  obtain ⟨before', after', split, none'⟩ := first'
  rcases List.append_eq_append_iff.mp split with ⟨more, rfl, rest⟩ | ⟨more, rfl, rest⟩
  · cases more with
    | nil => exact (List.cons_eq_cons.mp rest).1
    | cons head more =>
        cases rest
        exact absurd same (none' row (List.mem_append_right _ List.mem_cons_self))
  · cases more with
    | nil => exact (List.cons_eq_cons.mp rest).1.symm
    | cons head more =>
        cases rest
        exact absurd same.symm (none other (List.mem_append_right _ List.mem_cons_self))

/-- Every station of the result has a first row. -/
theorem exists_isFirst {rows : List (SoundingRow DateTime)} {row : SoundingRow DateTime}
    (member : row ∈ rows) :
    ∃ first, IsFirst rows first ∧ first.sounding.stationId = row.sounding.stationId := by
  induction rows using List.reverseRecOn generalizing row with
  | nil => cases member
  | append_singleton done last ih =>
      have kept : ∀ other ∈ done,
          ∃ first, IsFirst (done ++ [last]) first ∧ first.sounding.stationId =
            other.sounding.stationId := by
        intro other inDone
        obtain ⟨first, isFirst, station⟩ := ih inDone
        exact ⟨first, isFirst_concat.mpr (.inl isFirst), station⟩
      rcases List.mem_append.mp member with inDone | isLast
      · exact kept row inDone
      · cases List.mem_singleton.mp isLast
        by_cases seen : ∃ earlier ∈ done, earlier.sounding.stationId = last.sounding.stationId
        · obtain ⟨earlier, inDone, station⟩ := seen
          rw [← station]
          exact kept earlier inDone
        · refine ⟨last, isFirst_concat.mpr (.inr ⟨rfl, fun earlier inDone same => ?_⟩), rfl⟩
          exact seen ⟨earlier, inDone, same⟩

/-- In a descending result the first row of a station is its newest. -/
theorem IsFirst.newest [LinearOrder DateTime] {result : SoundingResult DateTime}
    {row other : SoundingRow DateTime} (first : IsFirst result.rows row)
    (member : other ∈ result.rows)
    (station : other.sounding.stationId = row.sounding.stationId) :
    other.sounding.messageTime ≤ row.sounding.messageTime := by
  obtain ⟨before, after, split, none⟩ := first
  have ordered := result.ordered
  rw [split] at ordered member
  rcases List.mem_append.mp member with inBefore | inRest
  · exact absurd station (none other inBefore)
  · rcases List.mem_cons.mp inRest with rfl | inAfter
    · exact le_rfl
    · exact (List.pairwise_cons.mp (List.pairwise_append.mp ordered).2.1).1 other inAfter
        station.symm

end

/-! ### The first loop -/

section

variable {DateTime : Type}

/-- The first loop has noted the stations and entered the rows it was to enter. -/
structure EnteredRows (latest : Bool) (done : List (SoundingRow DateTime))
    (state : OrderedSet Int × RadioSoundingMap DateTime) : Prop where
  stations : ∀ stationId, state.1.contains stationId = true ↔
    ∃ row ∈ done, row.sounding.stationId = stationId
  entries : ∀ entry, entry ∈ state.2.entries ↔ ∃ row, Entered latest done row ∧ entry = row.entry

/-- A row of a new station, or one that is entered in any case. -/
theorem EnteredRows.enter {latest : Bool} {done : List (SoundingRow DateTime)}
    {row : SoundingRow DateTime} {state : OrderedSet Int × RadioSoundingMap DateTime}
    (identified : ∀ other ∈ done, other.soundingId = row.soundingId → other = row)
    (entered : EnteredRows latest done state)
    (fresh : latest = true → ∀ earlier ∈ done,
      earlier.sounding.stationId ≠ row.sounding.stationId) :
    EnteredRows latest (done ++ [row])
      (state.1.insert row.sounding.stationId, state.2.emplace row.soundingId row.sounding) := by
  refine ⟨fun stationId => ?_, fun entry => ?_⟩
  · rw [OrderedSet.contains_insert, entered.stations]
    simp [or_and_right, exists_or, or_comm, eq_comm]
  · rw [OrderedMap.mem_emplace, entered.entries]
    constructor
    · rintro (⟨other, old, rfl⟩ | ⟨rfl, _⟩)
      · exact ⟨other, entered_concat.mpr (.inl old), rfl⟩
      · exact ⟨row, entered_concat.mpr (.inr ⟨rfl, fresh⟩), rfl⟩
    · rintro ⟨other, either, rfl⟩
      rcases entered_concat.mp either with old | ⟨rfl, _⟩
      · exact .inl ⟨other, old, rfl⟩
      · cases found : state.2.find other.soundingId with
        | none => exact .inr ⟨rfl, rfl⟩
        | some sounding =>
            -- The entry of the id can only come from the same row.
            obtain ⟨old, enteredOld, same⟩ :=
              (entered.entries _).mp (OrderedMap.find_eq_some.mp found)
            cases identified old enteredOld.mem (congrArg Prod.fst same).symm
            exact .inl ⟨other, enteredOld, rfl⟩

/-- A later row of a station where only the latest are asked for. -/
theorem EnteredRows.pass {latest : Bool} {done : List (SoundingRow DateTime)}
    {row earlier : SoundingRow DateTime} {state : OrderedSet Int × RadioSoundingMap DateTime}
    (entered : EnteredRows latest done state) (isLatest : latest = true) (inDone : earlier ∈ done)
    (station : earlier.sounding.stationId = row.sounding.stationId) :
    EnteredRows latest (done ++ [row]) state := by
  refine ⟨fun stationId => ?_, fun entry => ?_⟩
  · rw [entered.stations]
    constructor
    · rintro ⟨other, member, same⟩
      exact ⟨other, List.mem_append_left _ member, same⟩
    · rintro ⟨other, member, same⟩
      rcases List.mem_append.mp member with old | last
      · exact ⟨other, old, same⟩
      · cases List.mem_singleton.mp last
        exact ⟨earlier, inDone, station.trans same⟩
  · rw [entered.entries]
    refine exists_congr fun other => and_congr_left fun _ => ?_
    rw [entered_concat]
    exact ⟨.inl, fun either => either.resolve_right fun added =>
      added.2 isLatest earlier inDone station⟩

/-- The entries after one more row. -/
theorem enteredRows_concat {latest : Bool} {done : List (SoundingRow DateTime)}
    {row : SoundingRow DateTime} {state : OrderedSet Int × RadioSoundingMap DateTime}
    (identified : ∀ other ∈ done, other.soundingId = row.soundingId → other = row)
    (entered : EnteredRows latest done state) :
    EnteredRows latest (done ++ [row]) (enterSounding latest state row) := by
  unfold enterSounding
  split
  · next toEnter =>
      refine entered.enter identified fun isLatest earlier inDone same => ?_
      have noted := (entered.stations row.sounding.stationId).mpr ⟨earlier, inDone, same⟩
      rcases toEnter with all | ⟨_, unseen⟩
      · exact Bool.noConfusion (isLatest.symm.trans all)
      · exact Bool.noConfusion (noted.symm.trans unseen)
  · next passed =>
      obtain ⟨isLatest, noted⟩ : latest = true ∧
          (latest = true → state.1.contains row.sounding.stationId = true) := by
        simpa [not_or] using passed
      obtain ⟨earlier, inDone, station⟩ := (entered.stations _).mp (noted isLatest)
      exact entered.pass isLatest inDone station

/-- The rows in the map after the first loop. -/
theorem mem_entered (latest : Bool) {rows : List (SoundingRow DateTime)}
    (identified : ∀ row ∈ rows, ∀ other ∈ rows, row.soundingId = other.soundingId → row = other) :
    EnteredRows latest rows
      (rows.foldl (enterSounding latest) (OrderedMap.empty, OrderedMap.empty)) := by
  induction rows using List.reverseRecOn with
  | nil =>
      refine ⟨fun stationId => ?_, fun entry => ?_⟩
      · simp [OrderedSet.contains, OrderedMap.find, OrderedMap.empty]
      · cases latest <;> simp [Entered, IsFirst, OrderedMap.empty]
  | append_singleton done row ih =>
      rw [List.foldl_concat]
      refine enteredRows_concat (fun other member same => ?_)
        (ih fun first firstIn second secondIn => ?_)
      · exact identified other (List.mem_append_left _ member) row (by simp) same
      · exact identified first (List.mem_append_left _ firstIn) second
          (List.mem_append_left _ secondIn)

end

/-! ### The second loop -/

section

variable {DateTime : Type} [DecidableEq DateTime]

/-- An entry of type 1 with one of type 2 beside it in the map. -/
def HiddenIn (radioSoundingMap : RadioSoundingMap DateTime)
    (curr : Int × RadioSounding DateTime) : Prop :=
  curr.2.soundingType = 1 ∧ ∃ it ∈ radioSoundingMap.entries, shouldHide curr.2 it.2 = true

/-- A sounding hides the earlier ones of its station. -/
theorem mem_hideSounding {left radioSoundingMap : RadioSoundingMap DateTime}
    {curr : Int × RadioSounding DateTime} (current : curr ∈ radioSoundingMap.entries)
    (kept : ∀ entry ∈ left.entries, entry ∈ radioSoundingMap.entries)
    (type2 : ∀ entry ∈ radioSoundingMap.entries, entry.2.soundingType = 2 → entry ∈ left.entries)
    (entry : Int × RadioSounding DateTime) :
    entry ∈ (hideSounding left curr).entries ↔
      entry ∈ left.entries ∧ ¬(entry = curr ∧ HiddenIn radioSoundingMap curr) := by
  have sameTest : (left.entries.any fun it => shouldHide curr.2 it.2) = true ↔
      ∃ it ∈ radioSoundingMap.entries, shouldHide curr.2 it.2 = true := by
    rw [List.any_eq_true]
    constructor
    · rintro ⟨it, member, partner⟩
      exact ⟨it, kept it member, partner⟩
    · rintro ⟨it, member, partner⟩
      exact ⟨it, type2 it member (of_decide_eq_true partner).2.2, partner⟩
  have sameHidden : (curr.2.soundingType = 1 ∧
      (left.entries.any fun it => shouldHide curr.2 it.2) = true) ↔
        HiddenIn radioSoundingMap curr :=
    and_congr_right fun _ => sameTest
  unfold hideSounding
  split
  · next test =>
      have hidden := sameHidden.mp test
      rw [OrderedMap.mem_erase]
      refine and_congr_right fun member => not_congr ⟨fun sameKey => ⟨?_, hidden⟩, fun same => ?_⟩
      · exact Prod.ext sameKey (OrderedMap.value_unique (kept entry member) (sameKey ▸ current))
      · rw [same.1]
  · next visible => exact (and_iff_left fun both => visible (sameHidden.mpr both.2)).symm

/-- What the second loop leaves of the map. -/
theorem mem_foldl_hideSounding {radioSoundingMap : RadioSoundingMap DateTime}
    {todo : List (Int × RadioSounding DateTime)} {left : RadioSoundingMap DateTime}
    (current : ∀ curr ∈ todo, curr ∈ radioSoundingMap.entries)
    (kept : ∀ entry ∈ left.entries, entry ∈ radioSoundingMap.entries)
    (type2 : ∀ entry ∈ radioSoundingMap.entries, entry.2.soundingType = 2 → entry ∈ left.entries)
    {entry : Int × RadioSounding DateTime} :
    entry ∈ (todo.foldl hideSounding left).entries ↔
      entry ∈ left.entries ∧ ¬(entry ∈ todo ∧ HiddenIn radioSoundingMap entry) := by
  induction todo generalizing left with
  | nil => simp
  | cons curr todo ih =>
      have step := mem_hideSounding (current curr List.mem_cons_self) kept type2
      rw [List.foldl_cons, ih (fun other member => current other (List.mem_cons_of_mem _ member))
        (fun other member => kept other ((step other).mp member).1)
        (fun other member isType2 => (step other).mpr
          ⟨type2 other member isType2, fun hidden => ?_⟩), step, and_assoc, List.mem_cons]
      · refine and_congr_right fun _ => ?_
        by_cases same : entry = curr
        · subst same
          simp
          tauto
        · simp [same]
      · rw [hidden.1] at isType2
        exact absurd (isType2.symm.trans hidden.2.1) (by decide)

/-- The soundings that are selected. -/
theorem mem_parseSoundingQuery {latest : Bool} {rows : List (SoundingRow DateTime)}
    (identified : ∀ row ∈ rows, ∀ other ∈ rows, row.soundingId = other.soundingId → row = other)
    {entry : Int × RadioSounding DateTime} :
    entry ∈ (parseSoundingQuery latest rows).entries ↔
      ∃ row, Entered latest rows row ∧ entry = row.entry ∧ ¬(row.sounding.soundingType = 1 ∧
        ∃ other, Entered latest rows other ∧ shouldHide row.sounding other.sounding = true) := by
  have entered := (mem_entered latest identified).entries
  unfold parseSoundingQuery
  rw [mem_foldl_hideSounding (fun _ => id) (fun _ => id) fun _ member _ => member]
  have partners : ∀ row : SoundingRow DateTime,
      (∃ it ∈ ((rows.foldl (enterSounding latest) (OrderedMap.empty, OrderedMap.empty)).2).entries,
        shouldHide row.sounding it.2 = true) ↔
      ∃ other, Entered latest rows other ∧ shouldHide row.sounding other.sounding = true := by
    intro row
    constructor
    · rintro ⟨it, member, partner⟩
      obtain ⟨other, enteredOther, rfl⟩ := (entered it).mp member
      exact ⟨other, enteredOther, partner⟩
    · rintro ⟨other, enteredOther, partner⟩
      exact ⟨other.entry, (entered _).mpr ⟨other, enteredOther, rfl⟩, partner⟩
  constructor
  · rintro ⟨member, visible⟩
    obtain ⟨row, enteredRow, rfl⟩ := (entered entry).mp member
    exact ⟨row, enteredRow, rfl, fun hidden =>
      visible ⟨member, hidden.1, (partners row).mpr hidden.2⟩⟩
  · rintro ⟨row, enteredRow, rfl, visible⟩
    exact ⟨(entered _).mpr ⟨row, enteredRow, rfl⟩, fun hidden =>
      visible ⟨hidden.2.1, (partners row).mp hidden.2.2⟩⟩

end

/-! ### The selection -/

section

variable {DateTime : Type} [LinearOrder DateTime]

/-- With `latest` no entry of the map can hide another, for each is alone at its station. -/
theorem mem_parse_latest (result : SoundingResult DateTime) {entry : Int × RadioSounding DateTime} :
    entry ∈ (parseSoundingQuery true result.rows).entries ↔
      ∃ row, IsFirst result.rows row ∧ entry = row.entry := by
  rw [mem_parseSoundingQuery result.identified]
  refine exists_congr fun row => and_congr_right fun first => and_iff_left ?_
  rintro ⟨isType1, other, otherFirst, partner⟩
  obtain ⟨station, _, isType2⟩ := of_decide_eq_true partner
  cases IsFirst.unique otherFirst first station
  exact absurd (isType1.symm.trans isType2) (by decide)

/-- All soundings are selected when all are asked for. -/
theorem parse_all (result : SoundingResult DateTime) :
    SelectsSoundings false result.rows (parseSoundingQuery false result.rows) := by
  intro entry
  rw [mem_parseSoundingQuery result.identified]
  rfl

/-- The latest soundings are selected unless one is hidden by another. -/
theorem parse_latest_iff (result : SoundingResult DateTime) :
    SelectsSoundings true result.rows (parseSoundingQuery true result.rows) ↔
      ∀ row, IsFirst result.rows row → ¬Hidden result.rows row := by
  constructor
  · rintro ⟨selected, _⟩ row first
    obtain ⟨other, member, same, visible, _⟩ :=
      selected row.entry ((mem_parse_latest result).mpr ⟨row, first, rfl⟩)
    cases result.identified row first.mem other member (congrArg Prod.fst same)
    exact visible
  · intro visible
    refine ⟨fun entry member => ?_, fun row member => ?_⟩
    · obtain ⟨row, first, rfl⟩ := (mem_parse_latest result).mp member
      exact ⟨row, first.mem, rfl, visible row first, fun other otherIn station _ =>
        first.newest otherIn station⟩
    · obtain ⟨first, isFirst, station⟩ := exists_isFirst member
      refine ⟨first.entry, ⟨(mem_parse_latest result).mpr ⟨first, isFirst, rfl⟩, station⟩, ?_⟩
      rintro entry ⟨entryIn, entryStation⟩
      obtain ⟨other, otherFirst, rfl⟩ := (mem_parse_latest result).mp entryIn
      exact congrArg SoundingRow.entry
        (IsFirst.unique otherFirst isFirst (entryStation.trans station.symm))

/-- The soundings asked for are selected unless the latest ones are asked for and the first row
of a station is of type 1 with a sounding of type 2 beside it. -/
theorem parseSoundingQuery_selects_iff (latest : Bool) (result : SoundingResult DateTime) :
    SelectsSoundings latest result.rows (parseSoundingQuery latest result.rows) ↔
      (latest = true → ∀ row, IsFirst result.rows row → ¬Hidden result.rows row) := by
  cases latest with
  | false => exact iff_of_true (parse_all result) fun latest => absurd latest (by decide)
  | true => exact (parse_latest_iff result).trans ⟨fun visible _ => visible, fun visible =>
    visible rfl⟩

end

/-- Soundings of both types at one time, the one of type 1 first. -/
def bothTypes : SoundingResult Int where
  rows := [⟨11, 2, 720, 690, 780, 1⟩, ⟨12, 2, 720, 690, 790, 2⟩]
  identified := by decide
  ordered := by decide

/-- The sounding of type 1 is the latest one although there is one of type 2. -/
theorem bothTypes_type1 :
    (parseSoundingQuery true bothTypes.rows).entries = [(11, ⟨2, 720, 690, 780, 1⟩)] ∧
      ¬SelectsSoundings true bothTypes.rows (parseSoundingQuery true bothTypes.rows) := by
  have parsed :
      (parseSoundingQuery true bothTypes.rows).entries = [(11, ⟨2, 720, 690, 780, 1⟩)] := by decide
  refine ⟨parsed, fun selects => ?_⟩
  obtain ⟨row, member, same, visible, _⟩ :=
    selects.1 (11, ⟨2, 720, 690, 780, 1⟩) (by rw [parsed]; simp)
  rcases List.mem_cons.mp member with rfl | isSecond
  · exact visible ⟨rfl, ⟨12, 2, 720, 690, 790, 2⟩, by decide, by decide⟩
  · cases List.mem_singleton.mp isSecond
    cases same

end SmartMetWfs.Handlers
