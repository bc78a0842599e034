import Mathlib.Tactic.Ring
import SlotBooking.Domain.InstantReading
import SlotBooking.Domain.Slot

/-! The slots as the web client writes them. It puts the date and the label of the bucket in front
of a `Z`, and the server reads that as it stands. -/
namespace SlotBooking

def labelOfBucket (bucketId : Nat) (g : SlotGranularity) : List Char :=
  let minutes := bucketId * g.minutes
  Decimal.padStart 2 (minutes / 60) ++ ':' :: Decimal.padStart 2 (minutes % 60)

def slotInstantOf (date : List Char) (bucketId : Nat) (g : SlotGranularity) : List Char :=
  date ++ 'T' :: labelOfBucket bucketId g ++ ":00.000Z".toList

example : slotInstantOf (PlainDate.text ⟨20584⟩) 28 .half = "2026-05-11T14:00:00.000Z".toList := by
  decide

structure ParsedSlot where
  date : List Char
  bucketId : Nat
deriving DecidableEq

/-- A date of four-digit years, then hours and minutes on the grid, then a colon. -/
def parseSlotInstant (iso : Option (List Char)) (g : SlotGranularity) : Option ParsedSlot := do
  let text ← iso
  let (_, cs) ← Decimal.read 4 0 text
  let (_, cs) ← readField '-' cs
  let (_, cs) ← readField '-' cs
  let (hour, cs) ← readField 'T' cs
  let (minute, cs) ← readField ':' cs
  let minutes := hour * 60 + minute
  if cs.head? = some ':' ∧ minutes % g.minutes = 0 then
    return ⟨text.take 10, minutes / g.minutes⟩
  else none

/-- The instant of the text is the start of the slot, and the bucket there is the one picked. -/
def PickedIsBooked (tz : BusinessTimeZone) (date : PlainDate) (bucketId : Nat)
    (g : SlotGranularity) (capacity : Int) : Prop :=
  ∃ picked interval, Instant.ofText (slotInstantOf date.text bucketId g) = some picked ∧
    intervalOf ⟨date, bucketId, g, capacity⟩ tz = some interval ∧ picked = interval.startAt ∧
      tz.plainDate picked = date ∧ bucketOf picked tz g = bucketId

/-- The date starts at midnight of UTC and is not the last one; at the slot the zone is ahead of
UTC by less than the slot's length, if at all. -/
structure BusinessTimeZone.UtcAt (tz : BusinessTimeZone) (date : PlainDate) (bucketId : Nat)
    (g : SlotGranularity) : Prop where
  range : -100000000 ≤ date.epochDay ∧ date.epochDay < 100000000
  opens : tz.startOfDay date = Instant.ofEpochNs (date.epochDay * nsPerDay)
  offset : ∀ t : Instant,
    t.epochNs = date.epochDay * nsPerDay + bucketId * g.minutes * nsPerMinute →
      0 ≤ tz.offsetNs t ∧ tz.offsetNs t < g.minutes * nsPerMinute

section
variable {tz : BusinessTimeZone} {date : PlainDate} {bucketId : Nat} {g : SlotGranularity}

theorem minutes_le (bucket : bucketId < bucketsPerDay g) :
    bucketId * g.minutes + g.minutes ≤ 1440 := by
  cases g <;> simp only [bucketsPerDay, SlotGranularity.minutes] at bucket ⊢ <;> omega

theorem labelOfBucket_eq (bucket : bucketId < bucketsPerDay g) :
    labelOfBucket bucketId g = Decimal.digits 2 (bucketId * g.minutes / 60) ++
      ':' :: Decimal.digits 2 (bucketId * g.minutes % 60) := by
  have inDay := minutes_le bucket
  have hours : bucketId * g.minutes / 60 < 10 ^ 2 := by omega
  have minutes : bucketId * g.minutes % 60 < 10 ^ 2 := by omega
  rw [labelOfBucket, Decimal.padStart_eq_digits hours, Decimal.padStart_eq_digits minutes]

theorem labelOfBucket_seconds (bucket : bucketId < bucketsPerDay g) :
    labelOfBucket bucketId g ++ [':', '0', '0'] = timeText (bucketId * g.minutes * 60) := by
  have minute : bucketId * g.minutes * 60 / 60 = bucketId * g.minutes :=
    Nat.mul_div_cancel _ (by decide)
  have second : bucketId * g.minutes * 60 % 60 = 0 := Nat.mul_mod_left _ _
  rw [labelOfBucket_eq bucket, timeText, minute, second, List.append_assoc]
  rfl

/-- The client itself takes the text for the slot which was picked. -/
theorem parseSlotInstant_slotInstantOf (bucket : bucketId < bucketsPerDay g)
    (plain : 0 ≤ Calendar.yearFromDay date.epochDay ∧ Calendar.yearFromDay date.epochDay ≤ 9999) :
    parseSlotInstant (some (slotInstantOf date.text bucketId g)) g =
      some ⟨date.text, bucketId⟩ := by
  have inDay := minutes_le bucket
  have pos := g.minutes_pos
  have year : (Calendar.yearFromDay date.epochDay).toNat < 10 ^ 4 := by omega
  obtain ⟨month, day⟩ := Calendar.month_bounds date.epochDay
  have month' : Calendar.month date.epochDay < 100 := by omega
  have day' : Calendar.dayOfMonth date.epochDay < 100 := by omega
  have hour : bucketId * g.minutes / 60 < 100 := by omega
  have minute : bucketId * g.minutes % 60 < 100 := by omega
  have length : date.text.length = 10 := by
    simp [PlainDate.text, yearText_plain plain, monthDayText, Decimal.length_digits]
  have front : (slotInstantOf date.text bucketId g).take 10 = date.text := by
    rw [slotInstantOf, List.append_assoc, List.take_left' length]
  have minutes : bucketId * g.minutes / 60 * 60 + bucketId * g.minutes % 60 =
      bucketId * g.minutes := Nat.div_add_mod' _ _
  obtain ⟨rest, tail⟩ : ∃ rest, ":00.000Z".toList = ':' :: rest := ⟨_, rfl⟩
  simp only [parseSlotInstant, bind, Option.bind_some, front]
  simp only [slotInstantOf, tail, PlainDate.text, yearText_plain plain, monthDayText,
    labelOfBucket_eq bucket, List.append_assoc, List.cons_append, Decimal.read_digits_self year,
    readField_digits month', readField_digits day', readField_digits hour,
    readField_digits minute, Option.bind_some, minutes]
  rw [if_pos ⟨rfl, Nat.mul_mod_left _ _⟩, Nat.mul_div_cancel _ pos]
  rfl

/-- The client writes the wall clock of the slot as if it were UTC. -/
theorem ofText_slotInstantOf (valid : date.Valid) (bucket : bucketId < bucketsPerDay g) :
    Instant.ofText (slotInstantOf date.text bucketId g) =
      Instant.ofEpochNs (date.epochDay * nsPerDay + bucketId * g.minutes * nsPerMinute) := by
  have inDay := minutes_le bucket
  have pos := g.minutes_pos
  have day : (date.epochDay * secondsPerDay + (bucketId * g.minutes * 60 : Nat)) / secondsPerDay =
      date.epochDay := by
    unfold secondsPerDay
    omega
  have time : ((date.epochDay * secondsPerDay + (bucketId * g.minutes * 60 : Nat)) %
      secondsPerDay).toNat = bucketId * g.minutes * 60 := by
    unfold secondsPerDay
    omega
  have text : slotInstantOf date.text bucketId g =
      secondText (date.epochDay * secondsPerDay + (bucketId * g.minutes * 60 : Nat)) ++
        ['.', '0', '0', '0', 'Z'] := by
    rw [secondText, day, time, ← labelOfBucket_seconds bucket, slotInstantOf]
    simp
  rw [text, ofText_secondText (by rwa [day]) rfl]
  congr 1
  push_cast
  unfold secondsPerDay nsPerDay nsPerMinute nsPerSecond
  ring

/-- The local time at the text is that of the slot where the zone's offset does not leave the
bucket. -/
theorem bucket_iff_offset {t : Instant} (bucket : bucketId < bucketsPerDay g)
    (reads : t.epochNs = date.epochDay * nsPerDay + bucketId * g.minutes * nsPerMinute) :
    (tz.plainDate t = date ∧ bucketOf t tz g = bucketId) ↔
      0 ≤ tz.offsetNs t ∧ tz.offsetNs t < g.minutes * nsPerMinute := by
  have clock : tz.localNs t =
      date.epochDay * nsPerDay + bucketId * g.minutes * nsPerMinute + tz.offsetNs t := by
    rw [BusinessTimeZone.localNs, reads]
  have inDay := minutes_le bucket
  rw [plainDate_eq_iff_day, bucketOf_eq, clock]
  unfold nsPerDay nsPerMinute
  cases g <;> simp only [SlotGranularity.minutes] at inDay ⊢ <;> omega

/-- Every minute of a date before the last one is an instant. -/
theorem instant_of_minutes (inner : -100000000 ≤ date.epochDay ∧ date.epochDay < 100000000)
    {minutes : Nat} (le : minutes ≤ 1440) :
    ∃ t, Instant.ofEpochNs (date.epochDay * nsPerDay + minutes * nsPerMinute) = some t := by
  refine ⟨_, dif_pos ?_⟩
  unfold nsMaxInstant nsPerDay nsPerMinute
  omega

theorem midnight_of_inner (inner : -100000000 ≤ date.epochDay ∧ date.epochDay < 100000000) :
    ∃ t, Instant.ofEpochNs (date.epochDay * nsPerDay) = some t := by
  obtain ⟨t, midnight⟩ := @instant_of_minutes date inner 0 (by decide)
  rw [Int.natCast_zero, Int.zero_mul, Int.add_zero] at midnight
  exact ⟨t, midnight⟩

end

/-- The slot which is picked is the one which is booked if and only if the zone is as UTC there. -/
theorem picked_is_booked_iff (tz : BusinessTimeZone) (date : PlainDate) (bucketId : Nat)
    (g : SlotGranularity) (capacity : Int) (valid : date.Valid)
    (bucket : bucketId < bucketsPerDay g) :
    PickedIsBooked tz date bucketId g capacity ↔ tz.UtcAt date bucketId g := by
  have inDay := minutes_le bucket
  have pos := g.minutes_pos
  rw [PickedIsBooked, ofText_slotInstantOf valid bucket]
  constructor
  · rintro ⟨picked, interval, read, found, rfl, today, inBucket⟩
    obtain ⟨midnight, opens, starts, ends⟩ := intervalOf_eq_some.mp found
    have reads := Instant.ofEpochNs_eq_some.mp read
    have atMidnight : midnight.epochNs = date.epochDay * nsPerDay := by
      dsimp only at starts
      omega
    refine ⟨?_, ?_, ?_⟩
    · have first := midnight.inRange
      have last := interval.endAt.inRange
      dsimp only at ends
      unfold nsMaxInstant nsPerDay nsPerMinute at *
      constructor
      · omega
      · omega
    · exact opens.trans (Instant.ofEpochNs_eq_some.mpr atMidnight).symm
    · intro t same
      have here : some t = some interval.startAt :=
        (Instant.ofEpochNs_eq_some.mpr same).symm.trans read
      rw [Option.some.inj here]
      exact (bucket_iff_offset bucket reads).mp ⟨today, inBucket⟩
  · rintro ⟨inner, opens, offset⟩
    obtain ⟨midnight, atMidnight⟩ := midnight_of_inner inner
    obtain ⟨startAt, starts⟩ := @instant_of_minutes date inner (bucketId * g.minutes) (by omega)
    obtain ⟨endAt, ends⟩ := instant_of_minutes inner inDay
    rw [Int.natCast_mul] at starts
    have reads := Instant.ofEpochNs_eq_some.mp starts
    refine ⟨startAt, ⟨startAt, endAt⟩, starts, ?_, rfl, ?_⟩
    · refine intervalOf_eq_some.mpr ⟨midnight, opens.trans atMidnight, ?_, ?_⟩
      · rw [Instant.ofEpochNs_eq_some.mp atMidnight]
        exact reads
      · rw [Instant.ofEpochNs_eq_some.mp ends]
        change _ = startAt.epochNs + _
        rw [reads]
        push_cast
        ring
    · exact (bucket_iff_offset bucket reads).mpr (offset startAt reads)

/-- A zone of one offset. -/
def BusinessTimeZone.fixed (offsetNs : Int) : BusinessTimeZone where
  offsetNs _ := offsetNs
  startOfDay date := Instant.ofEpochNs (date.epochDay * nsPerDay - offsetNs)

/-- Such a zone is as UTC at no slot, or at all of them. -/
theorem fixed_utcAt_iff {date : PlainDate} {bucketId : Nat} {g : SlotGranularity} {offsetNs : Int}
    (inner : -100000000 ≤ date.epochDay ∧ date.epochDay < 100000000) :
    (BusinessTimeZone.fixed offsetNs).UtcAt date bucketId g ↔ offsetNs = 0 := by
  obtain ⟨midnight, atMidnight⟩ := midnight_of_inner inner
  constructor
  · intro utc
    have opens : Instant.ofEpochNs (date.epochDay * nsPerDay - offsetNs) = some midnight :=
      utc.opens.trans atMidnight
    have here := Instant.ofEpochNs_eq_some.mp atMidnight
    have there := Instant.ofEpochNs_eq_some.mp opens
    omega
  · rintro rfl
    have positive : 0 < (g.minutes : Int) * nsPerMinute := by cases g <;> decide
    refine ⟨inner, ?_, fun t _ => ⟨Int.le_refl _, positive⟩⟩
    exact congrArg Instant.ofEpochNs (Int.sub_zero _)

namespace Sample

/-- Nine hours ahead, the zone of the default deployment. -/
def tokyo : BusinessTimeZone := .fixed (540 * nsPerMinute)

end Sample

theorem picked_is_booked_iff_utc : PickedIsBooked (.fixed 0) ⟨20584⟩ 28 .half 2 :=
  (picked_is_booked_iff (.fixed 0) ⟨20584⟩ 28 .half 2 (by constructor <;> decide)
    (by decide)).mpr ((fixed_utcAt_iff (by constructor <;> decide)).mpr rfl)

/-- Two in the afternoon is picked, and eleven at night is booked. -/
theorem afternoon_booked_at_night : ∃ picked interval,
    Instant.ofText (slotInstantOf (PlainDate.text ⟨20584⟩) 28 .half) = some picked ∧
      intervalOf ⟨⟨20584⟩, 28, .half, 2⟩ Sample.tokyo = some interval ∧
      picked ≠ interval.startAt ∧ Sample.tokyo.plainDate picked = ⟨20584⟩ ∧
      bucketOf picked Sample.tokyo .half = 46 := by
  refine ⟨⟨20584 * nsPerDay + 840 * nsPerMinute, by decide⟩, ⟨⟨20584 * nsPerDay + 300 * nsPerMinute,
    by decide⟩, ⟨20584 * nsPerDay + 330 * nsPerMinute, by decide⟩⟩, ?_⟩
  decide

end SlotBooking
