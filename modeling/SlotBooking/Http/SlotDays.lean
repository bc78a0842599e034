import SlotBooking.Shop.SlotGrid
import SlotBooking.Shop.SlotPartition

/-! The loop over the days of the slot listing. The dates of the query are those of Temporal, from
-271821-04-19 to +275760-09-13, in any calendar; the loop compares their texts. -/
namespace SlotBooking

/-- A date of the query. The annotation is the text of its calendar, which is empty for the
calendar of ISO 8601 and follows the date elsewhere. -/
structure QueryDate where
  date : PlainDate
  annotation : List Char
  inRange : -100000001 ≤ date.epochDay ∧ date.epochDay ≤ 100000000

namespace QueryDate

def text (d : QueryDate) : List Char := d.date.text ++ d.annotation

/-- `add({ days: 1 })` keeps the calendar; no value after the last date of Temporal. -/
def next (d : QueryDate) : Option QueryDate :=
  if h : d.date.epochDay < 100000000 then
    some ⟨⟨d.date.epochDay + 1⟩, d.annotation, Int.le_add_one d.inRange.1, h⟩
  else none

end QueryDate

/-- A row of the answer, with the text of its date. -/
structure ListedSlot where
  date : List Char
  slot : SlotAvailability
deriving DecidableEq

def ListedSlot.key (row : ListedSlot) : PlainDate × Nat := (row.slot.date, row.slot.bucketId)

section
variable (startMs : List Int) (tz : BusinessTimeZone) (capacity : Int) (g : SlotGranularity)

def slotsOfDay (cursor : QueryDate) : Option (List ListedSlot) :=
  (List.range (bucketsPerDay g)).mapM (fun b =>
    (slotAvailability startMs tz capacity g cursor.date b).map (ListedSlot.mk cursor.text))

/-- The fuel covers all dates to the last one, after which there is no next. -/
def slotsThrough (last : QueryDate) : Nat → QueryDate → Option (List ListedSlot)
  | 0, _ => none
  | fuel + 1, cursor =>
    if last.text < cursor.text then some []
    else do
      let buckets ← slotsOfDay startMs tz capacity g cursor
      let next ← cursor.next
      let rest ← slotsThrough last fuel next
      return buckets ++ rest

end

/-- `GET /api/v1/slots` for any two dates; no value where Temporal throws. -/
def slotsListing (all : List Ticket) (tz : BusinessTimeZone) (capacity : Int)
    (first last : QueryDate) (g : SlotGranularity) : Option (List ListedSlot) :=
  slotsThrough (reservationStartMs all) tz capacity g last
    (100000000 - first.date.epochDay).toNat.succ first

/-- The days from one on and the buckets of each, in order. -/
def slotGrid (g : SlotGranularity) (day : Int) (days : Nat) : List (PlainDate × Nat) :=
  (List.range days).flatMap (fun i : Nat =>
    (List.range (bucketsPerDay g)).map (fun b => (⟨day + i⟩, b)))

/-! ### The condition -/

/-- The date starts within the range of instants, and so does the day after 24 hours. -/
def BusinessTimeZone.Opens (tz : BusinessTimeZone) (date : PlainDate) : Prop :=
  ∃ m, tz.startOfDay date = some m ∧ m.epochNs + nsPerDay ≤ nsMaxInstant

/-- The texts of two years compare as the years do: both have a plus sign or none of them, and
both have a minus sign only if they are the same. -/
def YearsCompare (y z : Int) : Prop := (y ≤ 9999 ↔ z ≤ 9999) ∧ (y < 0 ∧ z < 0 → y = z)

instance (y z : Int) : Decidable (YearsCompare y z) := inferInstanceAs (Decidable (_ ∧ _))

structure DaysListed (tz : BusinessTimeZone) (first last : QueryDate) : Prop where
  annotations : ¬ last.annotation < first.annotation
  window : YearsCompare (Calendar.yearFromDay first.date.epochDay)
    (Calendar.yearFromDay last.date.epochDay)
  followed : last.date.epochDay < 100000000
  after : YearsCompare (Calendar.yearFromDay last.date.epochDay)
    (Calendar.yearFromDay (last.date.epochDay + 1))
  opens : ∀ day, first.date.epochDay ≤ day → day ≤ last.date.epochDay → tz.Opens ⟨day⟩

/-! ### One day -/

section
variable {startMs : List Int} {tz : BusinessTimeZone} {capacity : Int} {g : SlotGranularity}

theorem slotsOfDay_keys {cursor : QueryDate} {rows : List ListedSlot}
    (listed : slotsOfDay startMs tz capacity g cursor = some rows) :
    rows.map ListedSlot.key = (List.range (bucketsPerDay g)).map (fun b => (cursor.date, b)) := by
  refine Traversal.keys_of_mapM listed (fun b row found => ?_)
  obtain ⟨slot, one, rfl⟩ := Option.map_eq_some_iff.mp found
  simp only [slotAvailability, bind, pure, Option.bind_eq_some_iff, Option.some.injEq] at one
  obtain ⟨_, _, rfl⟩ := one
  rfl

theorem slotsOfDay_some_iff {cursor : QueryDate} :
    (∃ rows, slotsOfDay startMs tz capacity g cursor = some rows) ↔ tz.Opens cursor.date := by
  have whole := g.buckets_ns
  constructor
  · rintro ⟨rows, listed⟩
    -- the last bucket ends with the day
    have last : bucketsPerDay g - 1 ∈ List.range (bucketsPerDay g) :=
      List.mem_range.mpr (Nat.sub_one_lt_of_lt (bucketsPerDay_pos g))
    obtain ⟨row, _, found⟩ := Traversal.mapM_of_mem listed last
    obtain ⟨slot, one, _⟩ := Option.map_eq_some_iff.mp found
    simp only [slotAvailability, bind, pure, Option.bind_eq_some_iff, Option.some.injEq] at one
    obtain ⟨interval, spans, _⟩ := one
    obtain ⟨m, opens, _⟩ := intervalOf_eq_some.mp spans
    obtain ⟨_, ends⟩ := (slot_interval_iff opens).mp spans
    have bound := interval.endAt.inRange.2
    have next := g.bucket_succ (bucketsPerDay g - 1)
    rw [Nat.sub_add_cancel (bucketsPerDay_pos g), whole] at next
    exact ⟨m, opens, by omega⟩
  · rintro ⟨m, opens, bound⟩
    have shown : ∀ b ∈ List.range (bucketsPerDay g), ∃ row,
        (slotAvailability startMs tz capacity g cursor.date b).map (ListedSlot.mk cursor.text) =
          some row := by
      intro b mem
      have upTo : (((b + 1 : Nat) : Int)) * g.ns ≤ bucketsPerDay g * g.ns :=
        Int.mul_le_mul_of_nonneg_right (by exact_mod_cast List.mem_range.mp mem) g.ns_pos.le
      rw [g.bucket_succ, whole] at upTo
      obtain ⟨interval, spans⟩ := slot_exists opens (b := b) (g := g) capacity (by omega)
      exact ⟨_, by rw [slotAvailability, spans]; rfl⟩
    exact Traversal.mapM_some shown

theorem slotGrid_succ (day : Int) (days : Nat) : slotGrid g day (days + 1) =
    (List.range (bucketsPerDay g)).map (fun b => (⟨day⟩, b)) ++ slotGrid g (day + 1) days := by
  have shifted (i : Nat) : day + (i + 1 : Int) = day + 1 + i := by omega
  simp [slotGrid, List.range_succ_eq_map, List.flatMap_map, shifted]

theorem slotGrid_ne_nil (day : Int) (days : Nat) : slotGrid g day (days + 1) ≠ [] := by
  have pos := bucketsPerDay_pos g
  rw [slotGrid_succ]
  simp
  omega

/-! ### The loop -/

/-- The text of a day in the calendar of a date of the query. -/
def QueryDate.textOf (d : QueryDate) (day : Int) : List Char := PlainDate.text ⟨day⟩ ++ d.annotation

theorem QueryDate.next_eq_some {d e : QueryDate} : d.next = some e ↔
    d.date.epochDay < 100000000 ∧ e.date = ⟨d.date.epochDay + 1⟩ ∧ e.annotation = d.annotation := by
  obtain ⟨date, annotation, inRange⟩ := e
  unfold QueryDate.next
  split
  · rename_i more
    simp [more, eq_comm]
  · rename_i done
    simp [done]

theorem slotsThrough_past {last cursor : QueryDate} (past : last.text < cursor.text) (fuel : Nat) :
    slotsThrough startMs tz capacity g last (fuel + 1) cursor = some [] := if_pos past

/-- A date which is not past the last one is listed in front of those after it. -/
theorem slotsThrough_succ_iff {last cursor : QueryDate} (more : ¬ last.text < cursor.text)
    {fuel : Nat} {rows : List ListedSlot} :
    slotsThrough startMs tz capacity g last (fuel + 1) cursor = some rows ↔
      ∃ today, slotsOfDay startMs tz capacity g cursor = some today ∧
        ∃ next, cursor.next = some next ∧
          ∃ rest, slotsThrough startMs tz capacity g last fuel next = some rest ∧
            today ++ rest = rows := by
  rw [slotsThrough, if_neg more]
  simp only [bind, pure, Option.bind_eq_some_iff, Option.some.injEq]

theorem slotsThrough_grid_iff {last cursor : QueryDate} (more : ¬ last.text < cursor.text)
    {fuel days : Nat} :
    (∃ rows, slotsThrough startMs tz capacity g last (fuel + 1) cursor = some rows ∧
        rows.map ListedSlot.key = slotGrid g cursor.date.epochDay (days + 1)) ↔
      tz.Opens cursor.date ∧ ∃ next, cursor.next = some next ∧
        ∃ rest, slotsThrough startMs tz capacity g last fuel next = some rest ∧
          rest.map ListedSlot.key = slotGrid g next.date.epochDay days := by
  rw [slotGrid_succ]
  constructor
  · rintro ⟨rows, ran, grid⟩
    obtain ⟨today, listed, next, stepped, rest, later, rfl⟩ := (slotsThrough_succ_iff more).mp ran
    obtain ⟨_, date, _⟩ := QueryDate.next_eq_some.mp stepped
    rw [List.map_append, slotsOfDay_keys listed, List.append_cancel_left_eq] at grid
    exact ⟨slotsOfDay_some_iff.mp ⟨today, listed⟩, next, stepped, rest, later, by rw [grid, date]⟩
  · rintro ⟨opens, next, stepped, rest, later, grid⟩
    obtain ⟨today, listed⟩ := slotsOfDay_some_iff.mpr opens
    obtain ⟨_, date, _⟩ := QueryDate.next_eq_some.mp stepped
    refine ⟨today ++ rest,
      (slotsThrough_succ_iff more).mpr ⟨today, listed, next, stepped, rest, later, rfl⟩, ?_⟩
    rw [List.map_append, slotsOfDay_keys listed, grid, date]

/-- The fuel is enough, whatever the texts are; the induction is on the days left. -/
theorem slotsThrough_iff {last : QueryDate} (days : Nat) {fuel : Nat} {cursor : QueryDate}
    (left : cursor.date.epochDay + days = last.date.epochDay + 1)
    (enough : 100000000 - cursor.date.epochDay < fuel) :
    (∃ rows, slotsThrough startMs tz capacity g last fuel cursor = some rows ∧
        rows.map ListedSlot.key = slotGrid g cursor.date.epochDay days) ↔
      (∀ day, cursor.date.epochDay ≤ day → day ≤ last.date.epochDay →
        ¬ last.text < cursor.textOf day ∧ tz.Opens ⟨day⟩) ∧
      last.date.epochDay < 100000000 ∧ last.text < cursor.textOf (last.date.epochDay + 1) := by
  have range := cursor.inRange
  induction days generalizing fuel cursor with
  | zero =>
    obtain ⟨fuel, rfl⟩ : ∃ k, fuel = k + 1 := ⟨fuel - 1, by omega⟩
    have here : cursor.textOf (last.date.epochDay + 1) = cursor.text := by
      rw [← left, Int.natCast_zero, Int.add_zero, QueryDate.textOf, QueryDate.text]
    rw [here]
    by_cases past : last.text < cursor.text
    · rw [slotsThrough_past past]
      exact iff_of_true ⟨[], rfl, rfl⟩ ⟨fun day low high => by omega, by omega, past⟩
    · refine iff_of_false ?_ (fun condition => past condition.2.2)
      rintro ⟨rows, ran, empty⟩
      obtain ⟨today, listed, _, _, rest, _, rfl⟩ := (slotsThrough_succ_iff past).mp ran
      have pos := bucketsPerDay_pos g
      rw [List.map_append, slotsOfDay_keys listed] at empty
      simp [slotGrid] at empty
      omega
  | succ days ih =>
    obtain ⟨fuel, rfl⟩ : ∃ k, fuel = k + 1 := ⟨fuel - 1, by omega⟩
    have here : cursor.textOf cursor.date.epochDay = cursor.text := rfl
    by_cases past : last.text < cursor.text
    · rw [slotsThrough_past past]
      refine iff_of_false ?_ ?_
      · rintro ⟨rows, ran, grid⟩
        cases ran
        exact slotGrid_ne_nil _ _ grid.symm
      · rintro ⟨through, _⟩
        exact (through _ le_rfl (by omega)).1 past
    · rw [slotsThrough_grid_iff past]
      constructor
      · rintro ⟨opens, next, stepped, listed⟩
        obtain ⟨_, date, annotation⟩ := QueryDate.next_eq_some.mp stepped
        have day : next.date.epochDay = cursor.date.epochDay + 1 := by rw [date]
        have texts : next.textOf = cursor.textOf := by
          funext d
          rw [QueryDate.textOf, QueryDate.textOf, annotation]
        obtain ⟨through, after⟩ := (@ih fuel next (by omega) (by omega) next.inRange).mp listed
        rw [texts] at through after
        refine ⟨fun d low high => ?_, after⟩
        by_cases first : d = cursor.date.epochDay
        · rw [first, here]
          exact ⟨past, opens⟩
        · exact through d (by omega) high
      · rintro ⟨through, followed, after⟩
        obtain ⟨_, opens⟩ := through _ le_rfl (by omega)
        let next : QueryDate := ⟨⟨cursor.date.epochDay + 1⟩, cursor.annotation, by simp only; omega⟩
        have stepped : cursor.next = some next := QueryDate.next_eq_some.mpr ⟨by omega, rfl, rfl⟩
        refine ⟨opens, next, stepped, (@ih fuel next (by simp only [next]; omega)
          (by simp only [next]; omega) next.inRange).mpr ⟨?_, followed, after⟩⟩
        exact fun d low high => through d (Int.le_of_lt low) high

end

/-! ### The order of the texts -/

theorem YearsCompare.symm {y z : Int} (compare : YearsCompare y z) : YearsCompare z y :=
  ⟨compare.1.symm, fun both => (compare.2 both.symm).symm⟩

/-- Whatever lies between two years that compare also compares with the later one. -/
theorem YearsCompare.between {x y z : Int} (compare : YearsCompare x z) (low : x ≤ y)
    (high : y ≤ z) : YearsCompare y z := by
  obtain ⟨plus, minus⟩ := compare
  refine ⟨⟨fun _ => ?_, fun _ => by omega⟩, fun both => ?_⟩
  · exact plus.mp (by omega)
  · have same := minus (by omega)
    omega

namespace QueryDate

variable {first last : QueryDate} {day : Int}

/-- Two dates that differ, in whatever calendars. -/
theorem text_lt_iff (different : last.date.epochDay ≠ day)
    (range : -100000001 ≤ day ∧ day ≤ 100000000) :
    (last.text < first.textOf day ↔ last.date.epochDay < day) ↔
      YearsCompare (Calendar.yearFromDay last.date.epochDay) (Calendar.yearFromDay day) :=
  dateText_agrees (year_range last.inRange.1 last.inRange.2) (year_range range.1 range.2)
    different _ _

theorem text_lt_self_iff :
    last.text < first.textOf last.date.epochDay ↔ last.annotation < first.annotation :=
  Decimal.append_lt_append_iff

theorem text_lt_later_iff (later : last.date.epochDay < day) (range : day ≤ 100000000) :
    last.text < first.textOf day ↔
      YearsCompare (Calendar.yearFromDay last.date.epochDay) (Calendar.yearFromDay day) := by
  have compare := @text_lt_iff first last day (Int.ne_of_lt later)
    ⟨last.inRange.1.trans later.le, range⟩
  rwa [iff_true_right later] at compare

theorem not_text_lt_earlier_iff (earlier : day < last.date.epochDay) (range : -100000001 ≤ day) :
    ¬ last.text < first.textOf day ↔
      YearsCompare (Calendar.yearFromDay last.date.epochDay) (Calendar.yearFromDay day) := by
  have compare := @text_lt_iff first last day (Int.ne_of_gt earlier)
    ⟨range, earlier.le.trans last.inRange.2⟩
  rwa [iff_false_right (Int.lt_asymm earlier)] at compare

/-- No date of a window that compares is past its last one. -/
theorem not_text_lt_of_between (annotations : ¬ last.annotation < first.annotation)
    (window : YearsCompare (Calendar.yearFromDay first.date.epochDay)
      (Calendar.yearFromDay last.date.epochDay))
    (low : first.date.epochDay ≤ day) (high : day ≤ last.date.epochDay) :
    ¬ last.text < first.textOf day := by
  rcases Int.lt_or_eq_of_le high with earlier | rfl
  · exact (not_text_lt_earlier_iff earlier (first.inRange.1.trans low)).mpr
      (window.between (Calendar.yearFromDay_mono low) (Calendar.yearFromDay_mono high)).symm
  · exact fun past => annotations (text_lt_self_iff.mp past)

end QueryDate

section
variable {first last : QueryDate}

/-- The loop comes through to the last date and ends after it. -/
theorem texts_iff (ordered : first.date.epochDay ≤ last.date.epochDay)
    (followed : last.date.epochDay < 100000000) :
    (∀ day, first.date.epochDay ≤ day → day ≤ last.date.epochDay →
        ¬ last.text < first.textOf day) ∧ last.text < first.textOf (last.date.epochDay + 1) ↔
      ¬ last.annotation < first.annotation ∧
      YearsCompare (Calendar.yearFromDay first.date.epochDay)
        (Calendar.yearFromDay last.date.epochDay) ∧
      YearsCompare (Calendar.yearFromDay last.date.epochDay)
        (Calendar.yearFromDay (last.date.epochDay + 1)) := by
  rw [QueryDate.text_lt_later_iff (Int.lt_succ _) followed, ← and_assoc]
  refine and_congr_left fun _ => ?_
  constructor
  · intro through
    refine ⟨fun past => through _ ordered le_rfl (QueryDate.text_lt_self_iff.mpr past), ?_⟩
    rcases Int.lt_or_eq_of_le ordered with earlier | same
    · exact ((QueryDate.not_text_lt_earlier_iff earlier first.inRange.1).mp
        (through _ le_rfl ordered)).symm
    · rw [same]
      exact ⟨Iff.rfl, fun _ => rfl⟩
  · rintro ⟨annotations, window⟩ day low high
    exact QueryDate.not_text_lt_of_between annotations window low high

/-- The listing has every bucket of every date of the window, once and in order, exactly under
the condition on its two dates. -/
theorem slots_listed_iff (all : List Ticket) (tz : BusinessTimeZone) (capacity : Int)
    (g : SlotGranularity) (ordered : first.date.epochDay ≤ last.date.epochDay) :
    (∃ rows, slotsListing all tz capacity first last g = some rows ∧ rows.map ListedSlot.key =
      slotGrid g first.date.epochDay (last.date.epochDay - first.date.epochDay + 1).toNat) ↔
    DaysListed tz first last := by
  have range := first.inRange
  rw [slotsListing, slotsThrough_iff _ (by omega) (by omega)]
  constructor
  · rintro ⟨through, followed, after⟩
    obtain ⟨annotations, window, next⟩ := (texts_iff ordered followed).mp
      ⟨fun day low high => (through day low high).1, after⟩
    exact ⟨annotations, window, followed, next, fun day low high => (through day low high).2⟩
  · rintro ⟨annotations, window, followed, next, opens⟩
    obtain ⟨through, after⟩ := (texts_iff ordered followed).mpr ⟨annotations, window, next⟩
    exact ⟨fun day low high => ⟨through day low high, opens day low high⟩, followed, after⟩

end

/-! ### A window that does not end -/

section
variable {startMs : List Int} {tz : BusinessTimeZone} {capacity : Int} {g : SlotGranularity}

theorem slotsThrough_throws {last cursor : QueryDate} (fuel : Nat)
    (endless : ∀ day, cursor.date.epochDay ≤ day → day ≤ 100000000 →
      ¬ last.text < cursor.textOf day) :
    slotsThrough startMs tz capacity g last fuel cursor = none := by
  induction fuel generalizing cursor with
  | zero => rfl
  | succ fuel ih =>
    have here : ¬ last.text < cursor.text := endless _ le_rfl cursor.inRange.2
    rw [slotsThrough, if_neg here]
    cases slotsOfDay startMs tz capacity g cursor with
    | none => rfl
    | some buckets =>
      cases stepped : cursor.next with
      | none => rfl
      | some next =>
        obtain ⟨_, date, annotation⟩ := QueryDate.next_eq_some.mp stepped
        have later := @ih next (fun day low high => by
          rw [QueryDate.textOf, annotation]
          rw [date] at low
          exact endless day (Int.le_of_lt low) high)
        simp only [bind, Option.bind_some, later, Option.bind_none]

/-- The date after 9999-12-31 and all later ones have texts before it. -/
theorem slotsListing_past_9999 (all : List Ticket) {first last : QueryDate}
    (annotations : ¬ last.annotation < first.annotation)
    (window : YearsCompare (Calendar.yearFromDay first.date.epochDay)
      (Calendar.yearFromDay last.date.epochDay))
    (plain : Calendar.yearFromDay last.date.epochDay ≤ 9999)
    (turn : 9999 < Calendar.yearFromDay (last.date.epochDay + 1)) :
    slotsListing all tz capacity first last g = none := by
  refine slotsThrough_throws _ (fun day low high => ?_)
  rcases Int.lt_or_le last.date.epochDay day with later | within
  · rw [QueryDate.text_lt_later_iff later high]
    have beyond := Calendar.yearFromDay_mono later
    exact fun compare => absurd (compare.1.mp plain) (by omega)
  · exact QueryDate.not_text_lt_of_between annotations window low within

end

/-! ### Dates of the ISO calendar -/

section
variable {startMs : List Int} {tz : BusinessTimeZone} {capacity : Int} {g : SlotGranularity}

theorem slotsOfDay_slots (cursor : QueryDate) :
    (slotsOfDay startMs tz capacity g cursor).map (List.map ListedSlot.slot) =
      (List.range (bucketsPerDay g)).mapM (slotAvailability startMs tz capacity g cursor.date) := by
  unfold slotsOfDay
  induction List.range (bucketsPerDay g) with
  | nil => rfl
  | cons b rest ih =>
    rw [List.mapM_cons, List.mapM_cons, ← ih]
    cases slotAvailability startMs tz capacity g cursor.date b with
    | none => rfl
    | some slot =>
      cases rest.mapM (fun b =>
        (slotAvailability startMs tz capacity g cursor.date b).map (ListedSlot.mk cursor.text)) with
      | none => rfl
      | some rows => rfl

theorem QueryDate.text_iso {d : QueryDate} (iso : d.annotation = []) : d.text = d.date.text := by
  rw [QueryDate.text, iso, List.append_nil]

/-- Without annotations the dates of the query are all there is to them. -/
theorem slotsThrough_iso {last : QueryDate} (isoLast : last.annotation = []) (fuel : Nat)
    {cursor : QueryDate} (iso : cursor.annotation = []) :
    (slotsThrough startMs tz capacity g last fuel cursor).map (List.map ListedSlot.slot) =
      slotsUpTo startMs tz capacity g last.date fuel cursor.date := by
  induction fuel generalizing cursor with
  | zero => rfl
  | succ fuel ih =>
    rw [slotsThrough, slotsUpTo, QueryDate.text_iso isoLast, QueryDate.text_iso iso,
      ← slotsOfDay_slots]
    split
    · rfl
    · cases slotsOfDay startMs tz capacity g cursor with
      | none => rfl
      | some buckets =>
        cases stepped : cursor.next with
        | none =>
          have ended : cursor.date.next = none := by
            simpa [QueryDate.next, PlainDate.next] using stepped
          rw [ended]
          rfl
        | some next =>
          obtain ⟨more, date, annotation⟩ := QueryDate.next_eq_some.mp stepped
          have moved : cursor.date.next = some next.date := by
            rw [date, PlainDate.next, if_pos more]
          have later := ih (Eq.trans annotation iso)
          rw [moved]
          simp only [bind, pure, Option.bind_some, Option.map_some, ← later]
          cases slotsThrough startMs tz capacity g last fuel next with
          | none => rfl
          | some rest => simp

theorem slotsListing_iso (all : List Ticket) {first last : QueryDate} (iso : first.annotation = [])
    (isoLast : last.annotation = []) :
    (slotsListing all tz capacity first last g).map (List.map ListedSlot.slot) =
      slotsRoute all tz capacity first.date last.date g :=
  slotsThrough_iso isoLast _ iso

end

/-- A window of years of four digits that ends before 9999-12-31 is listed, in a zone that is less
than a day from UTC. -/
theorem daysListed_fixed {first last : QueryDate} {offsetNs : Int}
    (near : -nsPerDay < offsetNs ∧ offsetNs < nsPerDay)
    (annotations : ¬ last.annotation < first.annotation)
    (ordered : first.date.epochDay ≤ last.date.epochDay)
    (from_ : 0 ≤ Calendar.yearFromDay first.date.epochDay)
    (to_ : Calendar.yearFromDay (last.date.epochDay + 1) ≤ 9999) :
    DaysListed (.fixed offsetNs) first last := by
  have lower := (Calendar.yearFromDay_bounds first.date.epochDay).1
  have upper := (Calendar.yearFromDay_bounds (last.date.epochDay + 1)).2
  have earliest := Calendar.dayFromYear_mono from_
  have latest := Calendar.dayFromYear_mono (Int.add_le_add_right to_ 1)
  have years := Calendar.yearFromDay_mono ordered
  have next := Calendar.yearFromDay_mono (Int.le_of_lt (Int.lt_succ last.date.epochDay))
  unfold Calendar.dayFromYear at lower upper earliest latest
  refine ⟨annotations, ⟨by omega, by omega⟩, by omega, ⟨by omega, by omega⟩, ?_⟩
  intro day low high
  have inRange : -nsMaxInstant ≤ day * nsPerDay - offsetNs ∧
      day * nsPerDay - offsetNs ≤ nsMaxInstant := by
    unfold nsMaxInstant nsPerDay at *
    omega
  refine ⟨⟨day * nsPerDay - offsetNs, inRange⟩, Instant.ofEpochNs_eq_some.mpr rfl, ?_⟩
  unfold nsMaxInstant nsPerDay at *
  simp only
  omega

namespace Sample

def isoDate (day : Int) (inRange : -100000001 ≤ day ∧ day ≤ 100000000) : QueryDate :=
  ⟨⟨day⟩, [], inRange⟩

/-- 9999-12-31. -/
def lastPlainDate : QueryDate := isoDate 2932896 (by decide)

end Sample

/-- The one-day window of 9999-12-31 is walked to the end of all dates, where Temporal throws. -/
theorem last_plain_date_not_listed : Sample.lastPlainDate.text = "9999-12-31".toList ∧
    slotsListing [] Sample.tokyo 2 Sample.lastPlainDate Sample.lastPlainDate .hour = none :=
  ⟨by decide, slotsListing_past_9999 [] (by decide) (by decide) (by decide)
    (by decide)⟩

/-- Three days of May 2026. -/
theorem slots_listed_iff_may : ∃ rows,
    slotsListing [] Sample.tokyo 2 (Sample.isoDate 20581 (by decide))
      (Sample.isoDate 20583 (by decide)) .hour = some rows ∧
    rows.map ListedSlot.key = slotGrid .hour 20581 3 :=
  (slots_listed_iff [] Sample.tokyo 2 .hour (by decide)).mpr
    (daysListed_fixed (by decide) (by decide) (by decide) (by decide) (by decide))

end SlotBooking
