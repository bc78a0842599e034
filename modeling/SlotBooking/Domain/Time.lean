import Mathlib.Data.Int.DivMod

/-! Instants, calendar dates and the deployment time zone, as far as the queue
uses Temporal. Arithmetic that leaves the range of Temporal throws there and
has no value here. -/
namespace SlotBooking

def nsPerMs : Int := 1000000
def nsPerMinute : Int := 60000000000
def nsPerDay : Int := 86400000000000

/-- Temporal allows 10^8 days on either side of the epoch. -/
def nsMaxInstant : Int := 8640000000000000000000

/-- `Temporal.Instant`, by its nanoseconds since the epoch. -/
structure Instant where
  epochNs : Int
  inRange : -nsMaxInstant ≤ epochNs ∧ epochNs ≤ nsMaxInstant
deriving DecidableEq

def Instant.ofEpochNs (ns : Int) : Option Instant :=
  if h : -nsMaxInstant ≤ ns ∧ ns ≤ nsMaxInstant then some ⟨ns, h⟩ else none

theorem Instant.ofEpochNs_eq_some {ns : Int} {t : Instant} :
    Instant.ofEpochNs ns = some t ↔ t.epochNs = ns := by
  rw [Instant.ofEpochNs]
  constructor
  · intro same
    split at same
    · cases same
      rfl
    · cases same
  · rintro rfl
    exact dif_pos t.inRange

theorem Instant.eq_of_epochNs {t u : Instant} (same : t.epochNs = u.epochNs) : t = u := by
  cases t
  cases u
  cases same
  rfl

/-- `add({ minutes })`; a negative amount is `subtract`. -/
def Instant.addMinutes (t : Instant) (minutes : Int) : Option Instant :=
  Instant.ofEpochNs (t.epochNs + minutes * nsPerMinute)

/-- `add({ milliseconds })`. -/
def Instant.addMilliseconds (t : Instant) (milliseconds : Int) : Option Instant :=
  Instant.ofEpochNs (t.epochNs + milliseconds * nsPerMs)

def Instant.epochMilliseconds (t : Instant) : Int := t.epochNs / nsPerMs

/-- `Temporal.PlainDate`, by its days since the epoch. -/
structure PlainDate where
  epochDay : Int
deriving DecidableEq

/-- An IANA time zone as the platform knows it: the offset in force at an instant, and
the instant at which a date starts, where it lies in the range of instants. -/
structure BusinessTimeZone where
  offsetNs : Instant → Int
  startOfDay : PlainDate → Option Instant

/-- The wall clock at an instant, in nanoseconds since local 1970-01-01T00:00. -/
def BusinessTimeZone.localNs (tz : BusinessTimeZone) (t : Instant) : Int :=
  t.epochNs + tz.offsetNs t

def BusinessTimeZone.plainDate (tz : BusinessTimeZone) (t : Instant) : PlainDate :=
  ⟨tz.localNs t / nsPerDay⟩

theorem plainDate_eq_iff_day {tz : BusinessTimeZone} {t : Instant} {date : PlainDate} :
    tz.plainDate t = date ↔ tz.localNs t / nsPerDay = date.epochDay :=
  ⟨fun same => congrArg PlainDate.epochDay same, fun same => congrArg PlainDate.mk same⟩

def BusinessTimeZone.hour (tz : BusinessTimeZone) (t : Instant) : Nat :=
  (tz.localNs t % nsPerDay / (60 * nsPerMinute)).toNat

def BusinessTimeZone.minute (tz : BusinessTimeZone) (t : Instant) : Nat :=
  (tz.localNs t % nsPerDay / nsPerMinute % 60).toNat

end SlotBooking
