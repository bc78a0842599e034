import SlotBooking.Domain.Time

/-! Slots: the fixed grid of buckets on which reservations are booked. -/
namespace SlotBooking

inductive SlotGranularity where
  | quarter
  | half
  | hour
deriving DecidableEq

/-- The literals 15, 30 and 60. -/
def SlotGranularity.minutes : SlotGranularity → Nat
  | .quarter => 15
  | .half => 30
  | .hour => 60

theorem SlotGranularity.minutes_pos (g : SlotGranularity) : 0 < g.minutes := by
  cases g <;> decide

def bucketsPerDay (g : SlotGranularity) : Nat := 1440 / g.minutes

/-- `capacity` is only ever compared with a count. -/
structure Slot where
  date : PlainDate
  bucketId : Nat
  granularity : SlotGranularity
  capacity : Int
deriving DecidableEq

def bucketOf (t : Instant) (tz : BusinessTimeZone) (g : SlotGranularity) : Nat :=
  (tz.hour t * 60 + tz.minute t) / g.minutes

structure SlotInterval where
  startAt : Instant
  endAt : Instant
deriving DecidableEq

theorem bucketOf_eq (t : Instant) (tz : BusinessTimeZone) (g : SlotGranularity) :
    bucketOf t tz g = (tz.localNs t % nsPerDay / (g.minutes * nsPerMinute)).toNat := by
  have ofDay : (tz.hour t * 60 + tz.minute t : Int) = tz.localNs t % nsPerDay / nsPerMinute := by
    have pos : 0 ≤ tz.localNs t % nsPerDay := Int.emod_nonneg _ (by decide)
    unfold BusinessTimeZone.hour BusinessTimeZone.minute nsPerMinute
    omega
  have minutes : (bucketOf t tz g : Int) = (tz.hour t * 60 + tz.minute t : Int) / g.minutes :=
    rfl
  rw [← Int.toNat_natCast (bucketOf t tz g), minutes, ofDay, Int.mul_comm,
    Int.ediv_ediv_of_nonneg (by decide)]

/-- The same slot of the grid. -/
def overlaps (a b : Slot) : Bool :=
  a.granularity = b.granularity && a.date = b.date && a.bucketId = b.bucketId

/-- No value where Temporal throws, at the edge of the range of instants. -/
def intervalOf (slot : Slot) (tz : BusinessTimeZone) : Option SlotInterval := do
  let midnight ← tz.startOfDay slot.date
  let startAt ← midnight.addMinutes (slot.bucketId * slot.granularity.minutes)
  let endAt ← startAt.addMinutes slot.granularity.minutes
  return { startAt, endAt }

theorem intervalOf_eq_some {slot : Slot} {tz : BusinessTimeZone} {interval : SlotInterval} :
    intervalOf slot tz = some interval ↔ ∃ midnight, tz.startOfDay slot.date = some midnight ∧
      interval.startAt.epochNs =
        midnight.epochNs + slot.bucketId * slot.granularity.minutes * nsPerMinute ∧
      interval.endAt.epochNs =
        interval.startAt.epochNs + slot.granularity.minutes * nsPerMinute := by
  simp only [intervalOf, bind, pure, Option.bind_eq_some_iff, Option.some.injEq, Instant.addMinutes,
    Instant.ofEpochNs_eq_some]
  constructor
  · rintro ⟨midnight, opens, startAt, starts, endAt, ends, rfl⟩
    exact ⟨midnight, opens, starts, ends⟩
  · rintro ⟨midnight, opens, starts, ends⟩
    exact ⟨midnight, opens, interval.startAt, starts, interval.endAt, ends, rfl⟩

end SlotBooking
