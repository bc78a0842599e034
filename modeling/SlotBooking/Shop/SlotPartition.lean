import Mathlib.Data.Int.LeastGreatest
import SlotBooking.Shop.Capacity
import SlotBooking.Web.SlotTime

/-! Which dates the slots partition. A bucket is read off the wall clock, while the interval of
a slot is exact time from the start of its date. -/
namespace SlotBooking

def SlotGranularity.ns (g : SlotGranularity) : Int := g.minutes * nsPerMinute

theorem SlotGranularity.ns_pos (g : SlotGranularity) : 0 < g.ns := by
  cases g <;> decide

theorem SlotGranularity.one_lt_ns (g : SlotGranularity) : 1 < g.ns := by
  cases g <;> decide

theorem SlotGranularity.ns_le_hour (g : SlotGranularity) : g.ns ≤ 60 * nsPerMinute := by
  cases g <;> decide

theorem SlotGranularity.ns_le_day (g : SlotGranularity) : g.ns ≤ nsPerDay := by
  cases g <;> decide

theorem bucketsPerDay_pos (g : SlotGranularity) : 0 < bucketsPerDay g := by
  cases g <;> decide

theorem SlotGranularity.buckets_ns (g : SlotGranularity) :
    (bucketsPerDay g : Int) * g.ns = nsPerDay := by
  cases g <;> decide

theorem SlotGranularity.bucket_nonneg (g : SlotGranularity) (b : Nat) : 0 ≤ (b : Int) * g.ns :=
  Int.mul_nonneg (Int.natCast_nonneg b) g.ns_pos.le

theorem SlotGranularity.bucket_succ (g : SlotGranularity) (b : Nat) :
    ((b + 1 : Nat) : Int) * g.ns = b * g.ns + g.ns := by
  rw [Int.natCast_add, Int.add_mul, Int.natCast_one, Int.one_mul]

/-- The wall clock from the midnight of a date on. -/
def BusinessTimeZone.wall (tz : BusinessTimeZone) (date : PlainDate) (t : Instant) : Int :=
  tz.localNs t - date.epochDay * nsPerDay

/-- What is assumed of a time zone. A date starts at the first instant at which the wall clock has
reached its midnight, unless the range of instants starts later. An offset stays for an hour at
least, a clock is set back by a day at most, and not in the last three hours of the range. -/
structure BusinessTimeZone.Regular (tz : BusinessTimeZone) : Prop where
  starts : ∀ date m, tz.startOfDay date = some m ↔ 0 ≤ tz.wall date m ∧
    (∀ t : Instant, t.epochNs < m.epochNs → tz.wall date t < 0) ∧
    (tz.wall date m = 0 ∨ -nsMaxInstant < m.epochNs)
  lasting : ∀ t u v : Instant, t.epochNs < u.epochNs → u.epochNs < v.epochNs →
    v.epochNs - t.epochNs ≤ 60 * nsPerMinute →
      tz.offsetNs t = tz.offsetNs u ∨ tz.offsetNs u = tz.offsetNs v
  swing : ∀ t u : Instant, t.epochNs < u.epochNs → u.epochNs - t.epochNs ≤ 60 * nsPerMinute →
    tz.offsetNs t - tz.offsetNs u ≤ nsPerDay
  settled : ∀ t u : Instant, nsMaxInstant - 180 * nsPerMinute ≤ t.epochNs →
    nsMaxInstant - 180 * nsPerMinute ≤ u.epochNs → tz.offsetNs t = tz.offsetNs u

/-- Round trip, cover and disjointness at the slots of a date. -/
structure SlotsPartition (tz : BusinessTimeZone) (g : SlotGranularity) (date : PlainDate) :
    Prop where
  roundTrip : ∀ bucketId capacity, bucketId < bucketsPerDay g →
    ∃ interval, intervalOf ⟨date, bucketId, g, capacity⟩ tz = some interval ∧
      tz.plainDate interval.startAt = date ∧ bucketOf interval.startAt tz g = bucketId
  covers : ∀ t capacity, tz.plainDate t = date →
    ∃ interval, intervalOf ⟨date, bucketOf t tz g, g, capacity⟩ tz = some interval ∧
      interval.holds t = true
  disjoint : ∀ a b : Slot, a.date = date → a.granularity = g → b.granularity = g →
    a.bucketId < bucketsPerDay g → b.bucketId < bucketsPerDay g → overlaps a b = false →
      ∀ i j, intervalOf a tz = some i → intervalOf b tz = some j →
        ∀ t, ¬ (i.holds t = true ∧ j.holds t = true)

/-- The clock stands at midnight when the date starts and is not changed for 24 hours; the date
does not come back after them, and no earlier date starts less than 24 hours before. -/
structure BusinessTimeZone.PlainDay (tz : BusinessTimeZone) (date : PlainDate) (m : Instant) :
    Prop where
  starts : tz.startOfDay date = some m
  inRange : m.epochNs + nsPerDay ≤ nsMaxInstant
  steady : ∀ t : Instant, m.epochNs ≤ t.epochNs → t.epochNs < m.epochNs + nsPerDay →
    tz.offsetNs t = date.epochDay * nsPerDay - m.epochNs
  once : ∀ t : Instant, m.epochNs + nsPerDay ≤ t.epochNs → tz.plainDate t ≠ date
  apart : ∀ earlier k, earlier.epochDay < date.epochDay → tz.startOfDay earlier = some k →
    k.epochNs + nsPerDay ≤ m.epochNs

section
variable {tz : BusinessTimeZone} {date : PlainDate} {g : SlotGranularity} {m : Instant}

/-! ### Slots as quotients -/

theorem slot_interval_iff (opens : tz.startOfDay date = some m) {b : Nat} {c : Int}
    {i : SlotInterval} : intervalOf ⟨date, b, g, c⟩ tz = some i ↔
      i.startAt.epochNs = m.epochNs + b * g.ns ∧ i.endAt.epochNs = m.epochNs + b * g.ns + g.ns := by
  rw [intervalOf_eq_some]
  unfold SlotGranularity.ns
  rw [← Int.mul_assoc]
  constructor
  · rintro ⟨k, same, starts, ends⟩
    cases opens.symm.trans same
    exact ⟨starts, by rw [ends, starts]⟩
  · rintro ⟨starts, ends⟩
    exact ⟨m, opens, starts, by rw [ends, starts]⟩

theorem slot_exists (opens : tz.startOfDay date = some m) {b : Nat} (c : Int)
    (within : m.epochNs + b * g.ns + g.ns ≤ nsMaxInstant) :
    ∃ i, intervalOf ⟨date, b, g, c⟩ tz = some i := by
  have first := m.inRange
  have pos := g.ns_pos
  have later := g.bucket_nonneg b
  refine ⟨⟨⟨m.epochNs + b * g.ns, ?_⟩, ⟨m.epochNs + b * g.ns + g.ns, ?_⟩⟩,
    (slot_interval_iff opens).mpr ⟨rfl, rfl⟩⟩
  · omega
  · omega

/-- An instant is in the slot its exact time since the start of the date leads to. -/
theorem slot_holds_iff (opens : tz.startOfDay date = some m) {b : Nat} {c : Int}
    {i : SlotInterval} (found : intervalOf ⟨date, b, g, c⟩ tz = some i) (t : Instant) :
    i.holds t = true ↔ (t.epochNs - m.epochNs) / g.ns = b := by
  obtain ⟨starts, ends⟩ := (slot_interval_iff opens).mp found
  rw [Int.ediv_eq_iff_of_pos g.ns_pos, SlotInterval.holds, Bool.and_eq_true, decide_eq_true_iff,
    decide_eq_true_iff, starts, ends]
  constructor
  · rintro ⟨low, high⟩
    exact ⟨by omega, by omega⟩
  · rintro ⟨low, high⟩
    exact ⟨by omega, by omega⟩

/-- The wall clock leads to date and bucket. -/
theorem reading_iff {b : Nat} (bucket : b < bucketsPerDay g) (t : Instant) :
    (tz.plainDate t = date ∧ bucketOf t tz g = b) ↔ tz.wall date t / g.ns = b := by
  rw [plainDate_eq_iff_day, bucketOf_eq, Int.ediv_eq_iff_of_pos g.ns_pos]
  unfold BusinessTimeZone.wall SlotGranularity.ns nsPerDay nsPerMinute
  cases g <;> simp only [bucketsPerDay, SlotGranularity.minutes] at bucket ⊢ <;> omega

theorem bucketOf_lt (t : Instant) : bucketOf t tz g < bucketsPerDay g := by
  rw [bucketOf_eq]
  unfold nsPerDay nsPerMinute
  cases g <;> simp only [bucketsPerDay, SlotGranularity.minutes] <;> omega

theorem plainDate_eq_iff {t : Instant} :
    tz.plainDate t = date ↔ 0 ≤ tz.wall date t ∧ tz.wall date t < nsPerDay := by
  rw [plainDate_eq_iff_day, Int.ediv_eq_iff_of_pos (by decide)]
  unfold BusinessTimeZone.wall
  constructor
  · rintro ⟨low, high⟩
    exact ⟨by omega, by omega⟩
  · rintro ⟨low, high⟩
    exact ⟨by omega, by omega⟩

theorem bucket_ns_le {b : Nat} (bucket : b < bucketsPerDay g) : b * g.ns + g.ns ≤ nsPerDay := by
  unfold SlotGranularity.ns nsPerDay nsPerMinute
  cases g <;> simp only [bucketsPerDay, SlotGranularity.minutes] at bucket ⊢ <;> omega

theorem quotient_bucket {e : Int} (nonneg : 0 ≤ e) (inDay : e < nsPerDay) :
    ∃ b, b < bucketsPerDay g ∧ e / g.ns = (b : Nat) := by
  refine ⟨(e / g.ns).toNat, ?_, ?_⟩
  · unfold SlotGranularity.ns nsPerMinute
    unfold nsPerDay at inDay
    cases g <;> simp only [bucketsPerDay, SlotGranularity.minutes] <;> omega
  · exact (Int.toNat_of_nonneg (Int.ediv_nonneg nonneg g.ns_pos.le)).symm

/-! ### A plain day is partitioned -/

namespace BusinessTimeZone

theorem PlainDay.wall_eq (plain : tz.PlainDay date m) {t : Instant}
    (later : m.epochNs ≤ t.epochNs) (inDay : t.epochNs < m.epochNs + nsPerDay) :
    tz.wall date t = t.epochNs - m.epochNs := by
  have offset := plain.steady t later inDay
  unfold wall localNs
  omega

theorem Regular.le_of_wall (zone : tz.Regular) (opens : tz.startOfDay date = some m) {t : Instant}
    (reached : 0 ≤ tz.wall date t) : m.epochNs ≤ t.epochNs := by
  by_contra before
  have early := ((zone.starts date m).mp opens).2.1 t (by omega)
  omega

/-- Dates start in their order. -/
theorem Regular.le_of_lt (zone : tz.Regular) (opens : tz.startOfDay date = some m)
    {later : PlainDate} {k : Instant} (after : date.epochDay < later.epochDay)
    (opensLater : tz.startOfDay later = some k) : m.epochNs ≤ k.epochNs := by
  have reached := ((zone.starts later k).mp opensLater).1
  apply zone.le_of_wall opens
  unfold wall nsPerDay at *
  omega

theorem PlainDay.next (zone : tz.Regular) (plain : tz.PlainDay date m) {later : PlainDate}
    {k : Instant} (after : date.epochDay < later.epochDay)
    (opensLater : tz.startOfDay later = some k) : m.epochNs + nsPerDay ≤ k.epochNs := by
  by_contra inside
  have wall := plain.wall_eq (zone.le_of_lt plain.starts after opensLater) (by omega)
  have reached := ((zone.starts later k).mp opensLater).1
  unfold BusinessTimeZone.wall nsPerDay at *
  omega

end BusinessTimeZone

theorem held_after {b : Nat} {c : Int} {i : SlotInterval} (opens : tz.startOfDay date = some m)
    (bucket : b < bucketsPerDay g) (found : intervalOf ⟨date, b, g, c⟩ tz = some i) {t : Instant}
    (held : i.holds t = true) :
    m.epochNs ≤ t.epochNs ∧ t.epochNs < m.epochNs + nsPerDay := by
  have pos := g.ns_pos
  have inDay := bucket_ns_le bucket
  have later := g.bucket_nonneg b
  obtain ⟨low, high⟩ :=
    (Int.ediv_eq_iff_of_pos pos).mp ((slot_holds_iff opens found t).mp held)
  exact ⟨by omega, by omega⟩

theorem partition_of_plain (zone : tz.Regular) (plain : tz.PlainDay date m) :
    SlotsPartition tz g date := by
  have pos := g.ns_pos
  have opens := plain.starts
  have inRange := plain.inRange
  refine ⟨?_, ?_, ?_⟩
  · intro b c bucket
    have inDay := bucket_ns_le bucket
    have later := g.bucket_nonneg b
    obtain ⟨i, found⟩ := slot_exists opens c (by omega : m.epochNs + b * g.ns + g.ns ≤ nsMaxInstant)
    have starts := ((slot_interval_iff opens).mp found).1
    refine ⟨i, found, (reading_iff bucket i.startAt).mpr ?_⟩
    rw [plain.wall_eq (by omega) (by omega), starts, add_sub_cancel_left]
    exact Int.mul_ediv_cancel _ pos.ne'
  · intro t c today
    have bucket : bucketOf t tz g < bucketsPerDay g := bucketOf_lt t
    have inDay := bucket_ns_le bucket
    have later : m.epochNs ≤ t.epochNs :=
      zone.le_of_wall opens (plainDate_eq_iff.mp today).1
    have before : t.epochNs < m.epochNs + nsPerDay := by
      by_contra after
      exact plain.once t (by omega) today
    obtain ⟨i, found⟩ := slot_exists opens c
      (by omega : m.epochNs + bucketOf t tz g * g.ns + g.ns ≤ nsMaxInstant)
    refine ⟨i, found, (slot_holds_iff opens found t).mpr ?_⟩
    rw [← plain.wall_eq later before]
    exact (reading_iff bucket t).mp ⟨today, rfl⟩
  · rintro ⟨own, b, _, c⟩ ⟨other, b', _, c'⟩ rfl rfl rfl bucket bucket' differ i j found found' t
      ⟨held, held'⟩
    obtain ⟨low, high⟩ := held_after opens bucket found held
    obtain ⟨k, opens', _⟩ := intervalOf_eq_some.mp found'
    obtain ⟨low', high'⟩ := held_after opens' bucket' found' held'
    rcases lt_trichotomy other.epochDay own.epochDay with before | same | after
    · have apart := plain.apart other k before opens'
      omega
    · have date : other = own := congrArg PlainDate.mk same
      subst date
      have quotient := (slot_holds_iff opens found t).mp held
      rw [(slot_holds_iff opens found' t).mp held'] at quotient
      have equal : b = b' := Int.ofNat.inj quotient.symm
      simp [overlaps, equal] at differ
    · have next := plain.next zone after opens'
      omega

/-! ### What is partitioned is a plain day -/

/-- How far the wall clock is ahead of the exact time since the start of the date. -/
def BusinessTimeZone.lead (tz : BusinessTimeZone) (date : PlainDate) (m t : Instant) : Int :=
  tz.wall date t - (t.epochNs - m.epochNs)

variable (tz date m) in
theorem lead_eq (t : Instant) :
    tz.lead date m t = tz.offsetNs t + m.epochNs - date.epochDay * nsPerDay := by
  unfold BusinessTimeZone.lead BusinessTimeZone.wall BusinessTimeZone.localNs
  omega

variable (date m) in
theorem lead_congr {t u : Instant} (same : tz.offsetNs t = tz.offsetNs u) :
    tz.lead date m t = tz.lead date m u := by
  rw [lead_eq, lead_eq, same]

/-- Of three moments within an hour, the middle one shares its lead with another. -/
theorem BusinessTimeZone.Regular.lead_lasting (zone : tz.Regular) (date : PlainDate) (m : Instant)
    {t u v : Instant} (first : t.epochNs < u.epochNs) (second : u.epochNs < v.epochNs)
    (near : v.epochNs - t.epochNs ≤ 60 * nsPerMinute) :
    tz.lead date m u = tz.lead date m t ∨ tz.lead date m u = tz.lead date m v := by
  rcases zone.lasting t u v first second near with same | same
  · exact .inl (lead_congr date m same).symm
  · exact .inr (lead_congr date m same)

/-- The date starts with no lead where there is none soon after. -/
theorem BusinessTimeZone.Regular.midnight_lead_zero (zone : tz.Regular)
    (opens : tz.startOfDay date = some m) {v : Instant} (after : m.epochNs < v.epochNs)
    (near : v.epochNs - m.epochNs < 60 * nsPerMinute) (none : tz.lead date m v = 0) :
    tz.lead date m m = 0 := by
  obtain ⟨reached, first, atMidnight⟩ := (zone.starts date m).mp opens
  have lead : tz.lead date m m = tz.wall date m := by
    unfold BusinessTimeZone.lead
    omega
  rcases atMidnight with midnight | inner
  · rw [lead, midnight]
  · have bound := m.inRange
    obtain ⟨u, previous⟩ : ∃ u : Instant, u.epochNs = m.epochNs - 1 :=
      ⟨⟨m.epochNs - 1, by omega⟩, rfl⟩
    have short : tz.wall date u < 0 := first u (by omega)
    have behind : tz.lead date m u ≤ 0 := by
      unfold BusinessTimeZone.lead
      omega
    rcases zone.lead_lasting date m (t := u) (u := m) (v := v) (by omega) after (by omega) with
      same | same
    · omega
    · exact same.trans none

namespace SlotsPartition

theorem inRange (part : SlotsPartition tz g date) (opens : tz.startOfDay date = some m) :
    m.epochNs + nsPerDay ≤ nsMaxInstant := by
  have last : bucketsPerDay g - 1 < bucketsPerDay g := by
    cases g <;> decide
  obtain ⟨i, found, _⟩ := part.roundTrip (bucketsPerDay g - 1) 0 last
  obtain ⟨_, ends⟩ := (slot_interval_iff opens).mp found
  have bound := i.endAt.inRange.2
  have whole : ((bucketsPerDay g - 1 : Nat) : Int) * g.ns + g.ns = nsPerDay := by
    cases g <;> decide
  omega

/-- Every moment of the day is an instant. -/
theorem exists_instant (part : SlotsPartition tz g date) (opens : tz.startOfDay date = some m)
    {e : Int} (nonneg : 0 ≤ e) (inDay : e ≤ nsPerDay) :
    ∃ t : Instant, t.epochNs = m.epochNs + e := by
  have bound := part.inRange opens
  have first := m.inRange
  exact ⟨⟨m.epochNs + e, by omega⟩, rfl⟩

theorem exists_first (part : SlotsPartition tz g date) (opens : tz.startOfDay date = some m)
    {b : Nat} (bucket : b < bucketsPerDay g) : ∃ t : Instant, t.epochNs = m.epochNs + b * g.ns := by
  have pos := g.ns_pos
  have inDay := bucket_ns_le bucket
  exact part.exists_instant opens (g.bucket_nonneg b) (by omega)

theorem exists_last (part : SlotsPartition tz g date) (opens : tz.startOfDay date = some m)
    {b : Nat} (bucket : b < bucketsPerDay g) :
    ∃ t : Instant, t.epochNs = m.epochNs + b * g.ns + g.ns - 1 := by
  have pos := g.ns_pos
  have from0 := g.bucket_nonneg b
  have inDay := bucket_ns_le bucket
  obtain ⟨t, last⟩ :=
    part.exists_instant opens (by omega : 0 ≤ (b : Int) * g.ns + g.ns - 1) (by omega)
  exact ⟨t, by omega⟩

theorem start_wall (part : SlotsPartition tz g date) (opens : tz.startOfDay date = some m) {b : Nat}
    (bucket : b < bucketsPerDay g) {t : Instant} (starts : t.epochNs = m.epochNs + b * g.ns) :
    tz.wall date t / g.ns = b := by
  obtain ⟨i, found, reading⟩ := part.roundTrip b 0 bucket
  have same : i.startAt = t := by
    have there := ((slot_interval_iff opens).mp found).1
    exact Instant.eq_of_epochNs (there.trans starts.symm)
  rw [← same]
  exact (reading_iff bucket i.startAt).mp reading

theorem start_lead (part : SlotsPartition tz g date) (opens : tz.startOfDay date = some m) {b : Nat}
    (bucket : b < bucketsPerDay g) {t : Instant} (starts : t.epochNs = m.epochNs + b * g.ns) :
    0 ≤ tz.lead date m t := by
  have wall := (Int.ediv_eq_iff_of_pos g.ns_pos).mp (part.start_wall opens bucket starts)
  unfold BusinessTimeZone.lead
  omega

theorem today_quotient (part : SlotsPartition tz g date) (opens : tz.startOfDay date = some m)
    {t : Instant} (today : tz.plainDate t = date) :
    (t.epochNs - m.epochNs) / g.ns = tz.wall date t / g.ns := by
  obtain ⟨i, found, held⟩ := part.covers t 0 today
  rw [(slot_holds_iff opens found t).mp held]
  exact ((reading_iff (bucketOf_lt t) t).mp ⟨today, rfl⟩).symm

theorem once (part : SlotsPartition tz g date) (opens : tz.startOfDay date = some m) {t : Instant}
    (after : m.epochNs + nsPerDay ≤ t.epochNs) : tz.plainDate t ≠ date := by
  intro today
  obtain ⟨i, found, held⟩ := part.covers t 0 today
  obtain ⟨_, before⟩ := held_after opens (bucketOf_lt t) found held
  omega

/-- No other date starts within 24 hours, while its first slot is in range. -/
theorem no_start (part : SlotsPartition tz g date) (opens : tz.startOfDay date = some m)
    {other : PlainDate} {k : Instant} (differ : other ≠ date)
    (opensOther : tz.startOfDay other = some k) (later : m.epochNs ≤ k.epochNs)
    (inDay : k.epochNs < m.epochNs + nsPerDay) : nsMaxInstant < k.epochNs + g.ns := by
  by_contra within
  have first := bucketsPerDay_pos g
  obtain ⟨b, bucket, quotient⟩ :=
    quotient_bucket (g := g) (e := k.epochNs - m.epochNs) (by omega) (by omega)
  obtain ⟨i, found, _⟩ := part.roundTrip b 0 bucket
  obtain ⟨j, found'⟩ := slot_exists (g := g) (b := 0) opensOther 0 (by
    rw [Int.natCast_zero, Int.zero_mul]
    omega)
  have apart : overlaps ⟨date, b, g, 0⟩ ⟨other, 0, g, 0⟩ = false := by
    simp [overlaps, differ.symm]
  refine part.disjoint _ _ rfl rfl rfl bucket first apart i j found found' k ⟨?_, ?_⟩
  · exact (slot_holds_iff opens found k).mpr quotient
  · rw [slot_holds_iff opensOther found', Int.sub_self, Int.zero_ediv]
    rfl

/-- Nor does the date start within 24 hours of an earlier one. -/
theorem apart (zone : tz.Regular) (part : SlotsPartition tz g date)
    (opens : tz.startOfDay date = some m) {earlier : PlainDate} {k : Instant}
    (before : earlier.epochDay < date.epochDay) (opensEarlier : tz.startOfDay earlier = some k) :
    k.epochNs + nsPerDay ≤ m.epochNs := by
  by_contra inside
  have order := zone.le_of_lt opensEarlier before opens
  have bound := part.inRange opens
  have first := bucketsPerDay_pos g
  obtain ⟨b, bucket, quotient⟩ :=
    quotient_bucket (g := g) (e := m.epochNs - k.epochNs) (by omega) (by omega)
  have low := ((Int.ediv_eq_iff_of_pos g.ns_pos).mp quotient).1
  have short := g.ns_le_day
  obtain ⟨i, found, _⟩ := part.roundTrip 0 0 first
  obtain ⟨j, found'⟩ := slot_exists (g := g) (b := b) opensEarlier 0 (by omega)
  have differ : overlaps ⟨date, 0, g, 0⟩ ⟨earlier, b, g, 0⟩ = false := by
    have other : date ≠ earlier := by
      rintro rfl
      omega
    simp [overlaps, other]
  refine part.disjoint _ _ rfl rfl rfl first bucket differ i j found found' m ⟨?_, ?_⟩
  · rw [slot_holds_iff opens found, Int.sub_self, Int.zero_ediv]
    rfl
  · exact (slot_holds_iff opensEarlier found' m).mpr quotient

end SlotsPartition

theorem wall_next (t : Instant) :
    tz.wall ⟨date.epochDay + 1⟩ t = tz.wall date t - nsPerDay := by
  unfold BusinessTimeZone.wall
  rw [Int.add_mul, Int.one_mul]
  omega

/-- A date the wall clock reaches has a start, where it was not reached when `m` came. -/
theorem BusinessTimeZone.Regular.exists_start (zone : tz.Regular)
    (opens : tz.startOfDay date = some m) {later : PlainDate} (after : date.epochDay < later.epochDay)
    (early : tz.wall later m < 0) {t : Instant} (reached : 0 ≤ tz.wall later t) :
    ∃ k, tz.startOfDay later = some k ∧ m.epochNs ≤ k.epochNs ∧ k.epochNs ≤ t.epochNs := by
  obtain ⟨ns, ⟨k, rfl, here⟩, least⟩ := Int.exists_least_of_bdd
    (P := fun ns => ∃ k : Instant, k.epochNs = ns ∧ 0 ≤ tz.wall later k)
    ⟨-nsMaxInstant, fun _ ⟨k, same, _⟩ => same ▸ k.inRange.1⟩ ⟨t.epochNs, t, rfl, reached⟩
  have first : ∀ u : Instant, u.epochNs < k.epochNs → tz.wall later u < 0 := by
    intro u before
    by_contra passed
    have minimal := least u.epochNs ⟨u, rfl, by omega⟩
    omega
  have past : m.epochNs < k.epochNs := by
    by_contra before
    rcases (Int.not_lt.mp before).lt_or_eq with sooner | same
    · have law := ((zone.starts date m).mp opens).2.1 k sooner
      unfold wall nsPerDay at *
      omega
    · rw [Instant.eq_of_epochNs same] at here
      omega
  refine ⟨k, (zone.starts later k).mpr ⟨here, first, .inr ?_⟩, past.le, least t.epochNs
    ⟨t, rfl, reached⟩⟩
  have bound := m.inRange.1
  omega

namespace SlotsPartition

/-- Until the last slot's length of the range the wall clock is in no later slot than the exact
time since the start of the date. -/
theorem quotient_le (zone : tz.Regular) (part : SlotsPartition tz g date)
    (opens : tz.startOfDay date = some m) {t : Instant} (later : m.epochNs ≤ t.epochNs)
    (inDay : t.epochNs < m.epochNs + nsPerDay) (within : t.epochNs + g.ns ≤ nsMaxInstant) :
    tz.wall date t / g.ns ≤ (t.epochNs - m.epochNs) / g.ns := by
  by_cases today : tz.plainDate t = date
  · rw [part.today_quotient opens today]
  by_cases tomorrow : tz.wall date t < nsPerDay
  · have early : tz.wall date t < 0 := by
      by_contra reached
      exact today (plainDate_eq_iff.mpr ⟨by omega, tomorrow⟩)
    have nonneg : 0 ≤ (t.epochNs - m.epochNs) / g.ns := Int.ediv_nonneg (by omega) g.ns_pos.le
    have behind : tz.wall date t / g.ns < 0 := by
      rw [Int.ediv_lt_iff_lt_mul g.ns_pos, Int.zero_mul]
      exact early
    exact behind.le.trans nonneg
  · have first := bucketsPerDay_pos g
    have opening := (Int.ediv_eq_iff_of_pos g.ns_pos).mp
      (part.start_wall opens first (t := m) (by rw [Int.natCast_zero, Int.zero_mul, Int.add_zero]))
    have short := g.ns_le_day
    obtain ⟨k, opensLater, low, high⟩ : ∃ k, tz.startOfDay ⟨date.epochDay + 1⟩ = some k ∧
        m.epochNs ≤ k.epochNs ∧ k.epochNs ≤ t.epochNs := by
      refine zone.exists_start opens (Int.lt_add_one_of_le (Int.le_refl _)) ?_ ?_
      · rw [wall_next]
        omega
      · rw [wall_next]
        omega
    have other : (⟨date.epochDay + 1⟩ : PlainDate) ≠ date := by
      intro same
      have days := congrArg PlainDate.epochDay same
      dsimp only at days
      omega
    have late := part.no_start opens other opensLater low (by omega)
    omega

/-- At the end of a slot the wall clock is not ahead. -/
theorem end_lead_le (zone : tz.Regular) (part : SlotsPartition tz g date)
    (opens : tz.startOfDay date = some m) {b : Nat} (bucket : b < bucketsPerDay g) {t : Instant}
    (ends : t.epochNs = m.epochNs + b * g.ns + g.ns - 1)
    (within : t.epochNs + g.ns ≤ nsMaxInstant) : tz.lead date m t ≤ 0 := by
  have pos := g.ns_pos
  have inDay := bucket_ns_le bucket
  have from0 := g.bucket_nonneg b
  have quotient : (t.epochNs - m.epochNs) / g.ns = b := by
    rw [Int.ediv_eq_iff_of_pos pos]
    exact ⟨by omega, by omega⟩
  have le := part.quotient_le zone opens (by omega) (by omega) within
  rw [quotient] at le
  have below : tz.wall date t < (b + 1) * g.ns :=
    (Int.ediv_lt_iff_lt_mul pos).mp (Int.lt_add_one_of_le le)
  rw [Int.add_mul, Int.one_mul] at below
  unfold BusinessTimeZone.lead
  omega

theorem end_lead_inner (zone : tz.Regular) (part : SlotsPartition tz g date)
    (opens : tz.startOfDay date = some m) {b : Nat} (bucket : b + 1 < bucketsPerDay g)
    {t : Instant} (ends : t.epochNs = m.epochNs + b * g.ns + g.ns - 1) :
    tz.lead date m t = 0 := by
  have long := g.one_lt_ns
  have hour := g.ns_le_hour
  have next := g.bucket_succ b
  have inDay := bucket_ns_le bucket
  have bound := part.inRange opens
  obtain ⟨u, starts⟩ := part.exists_first opens (by omega : b < bucketsPerDay g)
  obtain ⟨v, startsNext⟩ := part.exists_first opens bucket
  have low := part.start_lead opens (by omega) starts
  have lowNext := part.start_lead opens bucket startsNext
  have high := part.end_lead_le zone opens (by omega) ends (by omega)
  rcases zone.lead_lasting date m (t := u) (u := t) (v := v) (by omega) (by omega) (by omega) with
    same | same
  · omega
  · omega

/-- In the last slot, the end of the day decides. -/
theorem end_lead_last (zone : tz.Regular) (part : SlotsPartition tz g date)
    (opens : tz.startOfDay date = some m) {b : Nat} (last : b + 1 = bucketsPerDay g)
    {t : Instant} (ends : t.epochNs = m.epochNs + b * g.ns + g.ns - 1) :
    tz.lead date m t = 0 := by
  have long := g.one_lt_ns
  have hour := g.ns_le_hour
  have whole : (b : Int) * g.ns + g.ns = nsPerDay := by
    have day := g.buckets_ns
    rw [← last, g.bucket_succ] at day
    exact day
  have bound := part.inRange opens
  by_cases within : t.epochNs + g.ns ≤ nsMaxInstant
  · obtain ⟨u, starts⟩ := part.exists_first opens (by omega : b < bucketsPerDay g)
    obtain ⟨v, atEnd⟩ := part.exists_instant opens (by decide : (0 : Int) ≤ nsPerDay) (Int.le_refl _)
    have low := part.start_lead opens (by omega) starts
    have high := part.end_lead_le zone opens (by omega) ends within
    rcases zone.lead_lasting date m (t := u) (u := t) (v := v) (by omega) (by omega) (by omega) with
      same | same
    · omega
    · have back := zone.swing u v (by omega) (by omega)
      have gone := part.once opens (t := v) (by omega)
      rw [Ne, plainDate_eq_iff] at gone
      rw [lead_eq] at low
      have leadOver := lead_eq tz date m v
      have wallOver : tz.lead date m v = tz.wall date v - nsPerDay := by
        unfold BusinessTimeZone.lead
        omega
      omega
  -- Beyond, the slot is so near the end of the range that the clock is no longer changed.
  · obtain ⟨c, rfl⟩ : ∃ c, b = c + 1 := by
      cases b with
      | zero => cases g <;> cases last
      | succ c => exact ⟨c, rfl⟩
    have split := g.bucket_succ c
    obtain ⟨u, endsBefore⟩ := part.exists_last opens (by omega : c < bucketsPerDay g)
    have before := part.end_lead_inner zone opens (by omega) endsBefore
    have settled := zone.settled t u (by omega) (by omega)
    rw [lead_congr date m settled]
    exact before

theorem end_lead (zone : tz.Regular) (part : SlotsPartition tz g date)
    (opens : tz.startOfDay date = some m) {b : Nat} (bucket : b < bucketsPerDay g) {t : Instant}
    (ends : t.epochNs = m.epochNs + b * g.ns + g.ns - 1) : tz.lead date m t = 0 := by
  rcases (Nat.succ_le_of_lt bucket).lt_or_eq with inner | last
  · exact part.end_lead_inner zone opens inner ends
  · exact part.end_lead_last zone opens last ends

theorem start_lead_zero (zone : tz.Regular) (part : SlotsPartition tz g date)
    (opens : tz.startOfDay date = some m) {b : Nat} (bucket : b < bucketsPerDay g) {t : Instant}
    (starts : t.epochNs = m.epochNs + b * g.ns) : tz.lead date m t = 0 := by
  have long := g.one_lt_ns
  have hour := g.ns_le_hour
  obtain ⟨v, ends⟩ := part.exists_last opens bucket
  have after := part.end_lead zone opens bucket ends
  cases b with
  | zero =>
    rw [Int.natCast_zero, Int.zero_mul] at starts ends
    have here : t = m := Instant.eq_of_epochNs (by omega)
    rw [here]
    exact zone.midnight_lead_zero opens (by omega) (by omega) after
  | succ c =>
    have split := g.bucket_succ c
    obtain ⟨u, endsBefore⟩ := part.exists_last opens (by omega : c < bucketsPerDay g)
    have before := part.end_lead zone opens (by omega) endsBefore
    rcases zone.lead_lasting date m (t := u) (u := t) (v := v) (by omega) (by omega) (by omega) with
      same | same
    · exact same.trans before
    · exact same.trans after

/-- Throughout the 24 hours the wall clock shows the exact time since the start of the date. -/
theorem lead_zero (zone : tz.Regular) (part : SlotsPartition tz g date)
    (opens : tz.startOfDay date = some m) {t : Instant} (later : m.epochNs ≤ t.epochNs)
    (inDay : t.epochNs < m.epochNs + nsPerDay) : tz.lead date m t = 0 := by
  have hour := g.ns_le_hour
  obtain ⟨b, bucket, quotient⟩ :=
    quotient_bucket (g := g) (e := t.epochNs - m.epochNs) (by omega) (by omega)
  obtain ⟨low, high⟩ := (Int.ediv_eq_iff_of_pos g.ns_pos).mp quotient
  by_cases starts : t.epochNs = m.epochNs + b * g.ns
  · exact part.start_lead_zero zone opens bucket starts
  by_cases ends : t.epochNs = m.epochNs + b * g.ns + g.ns - 1
  · exact part.end_lead zone opens bucket ends
  obtain ⟨u, startsAt⟩ := part.exists_first opens bucket
  obtain ⟨v, endsAt⟩ := part.exists_last opens bucket
  rcases zone.lead_lasting date m (t := u) (u := t) (v := v) (by omega) (by omega) (by omega) with
    same | same
  · exact same.trans (part.start_lead_zero zone opens bucket startsAt)
  · exact same.trans (part.end_lead zone opens bucket endsAt)

theorem plain (zone : tz.Regular) (part : SlotsPartition tz g date) :
    ∃ m, tz.PlainDay date m := by
  have first := bucketsPerDay_pos g
  obtain ⟨_, found, _⟩ := part.roundTrip 0 0 first
  obtain ⟨m, opens, _⟩ := intervalOf_eq_some.mp found
  refine ⟨m, opens, part.inRange opens, fun t later inDay => ?_, fun t after => part.once opens after,
    fun earlier k before opensEarlier => part.apart zone opens before opensEarlier⟩
  have none := part.lead_zero zone opens later inDay
  rw [lead_eq] at none
  omega

end SlotsPartition

/-- One grid fits a date where the others do. -/
theorem SlotsPartition.regrid (zone : tz.Regular) (part : SlotsPartition tz g date)
    (other : SlotGranularity) : SlotsPartition tz other date := by
  obtain ⟨m, plain⟩ := part.plain zone
  exact partition_of_plain zone plain

/-- Where the clock is changed within 24 hours of the start, no grid fits. -/
theorem not_partition_of_change (zone : tz.Regular) (opens : tz.startOfDay date = some m)
    {t : Instant} (later : m.epochNs ≤ t.epochNs) (inDay : t.epochNs < m.epochNs + nsPerDay)
    (changed : tz.offsetNs t ≠ tz.offsetNs m) : ¬ SlotsPartition tz g date := by
  intro part
  have here := part.lead_zero zone opens later inDay
  have start := part.lead_zero zone opens (Int.le_refl _) (by unfold nsPerDay; omega)
  rw [lead_eq] at here start
  omega

end

/-! ### Zones of one offset and of one change -/

/-- A zone whose clock is changed once. -/
def BusinessTimeZone.changedAt (change before after : Int) : BusinessTimeZone where
  offsetNs t := if t.epochNs < change then before else after
  startOfDay date := Instant.ofEpochNs
    (if date.epochDay * nsPerDay - before < change then date.epochDay * nsPerDay - before
      else max change (date.epochDay * nsPerDay - after))

theorem changedAt_wall {change before after : Int} (date : PlainDate) (t : Instant) :
    (BusinessTimeZone.changedAt change before after).wall date t =
      t.epochNs + (if t.epochNs < change then before else after) - date.epochDay * nsPerDay :=
  rfl

theorem changedAt_starts {change before after : Int}
    (inner : -nsMaxInstant < change ∧ change ≤ nsMaxInstant) (date : PlainDate) (m : Instant) :
    (BusinessTimeZone.changedAt change before after).startOfDay date = some m ↔
      0 ≤ (BusinessTimeZone.changedAt change before after).wall date m ∧
      (∀ t : Instant, t.epochNs < m.epochNs →
        (BusinessTimeZone.changedAt change before after).wall date t < 0) ∧
      ((BusinessTimeZone.changedAt change before after).wall date m = 0 ∨
        -nsMaxInstant < m.epochNs) := by
  have range := m.inRange
  simp only [changedAt_wall]
  rw [BusinessTimeZone.changedAt, Instant.ofEpochNs_eq_some]
  constructor
  · intro here
    split at here
    · rw [if_pos (by omega)]
      refine ⟨by omega, fun t earlier => ?_, .inl (by omega)⟩
      rw [if_pos (by omega)]
      omega
    · rw [if_neg (by omega)]
      refine ⟨by omega, fun t earlier => ?_, by omega⟩
      split
      · omega
      · omega
  · rintro ⟨reached, first, clipped⟩
    have previous : -nsMaxInstant < m.epochNs →
        m.epochNs - 1 + (if m.epochNs - 1 < change then before else after) -
          date.epochDay * nsPerDay < 0 := fun room =>
      first ⟨m.epochNs - 1, by omega⟩ (Int.sub_one_lt_of_le (Int.le_refl _))
    by_cases early : m.epochNs < change
    · rw [if_pos early] at reached clipped
      rw [if_pos (by omega)] at previous
      rw [if_pos (by omega)]
      omega
    · rw [if_neg early] at reached clipped
      have unreached : ¬ date.epochDay * nsPerDay - before < change := by
        intro sooner
        have passed := first ⟨max (-nsMaxInstant) (date.epochDay * nsPerDay - before), by omega⟩
          (by dsimp only; omega)
        dsimp only at passed
        rw [if_pos (by omega)] at passed
        omega
      rw [if_neg unreached]
      have latest : ¬ max change (date.epochDay * nsPerDay - after) < m.epochNs := by
        intro room
        have behind := previous (by omega)
        rw [if_neg (by omega)] at behind
        omega
      omega

theorem changedAt_regular {change before after : Int} (back : before - after ≤ nsPerDay)
    (inner : -nsMaxInstant < change ∧ change ≤ nsMaxInstant - 180 * nsPerMinute) :
    (BusinessTimeZone.changedAt change before after).Regular where
  starts := changedAt_starts ⟨inner.1, by unfold nsPerMinute at inner; omega⟩
  lasting := by
    intro t u v first second _
    simp only [BusinessTimeZone.changedAt]
    split <;> split <;> split <;> omega
  swing := by
    intro t u _ _
    simp only [BusinessTimeZone.changedAt]
    split <;> split <;> unfold nsPerDay at * <;> omega
  settled := by
    intro t u late late'
    simp only [BusinessTimeZone.changedAt]
    rw [if_neg (by omega), if_neg (by omega)]

theorem fixed_eq_changedAt (offsetNs : Int) :
    BusinessTimeZone.fixed offsetNs = .changedAt 0 offsetNs offsetNs := by
  have starts : ∀ ns : Int, (if ns < 0 then ns else max 0 ns) = ns := by
    intro ns
    split
    · rfl
    · omega
  simp only [BusinessTimeZone.fixed, BusinessTimeZone.changedAt, ite_self, starts]

theorem fixed_regular (offsetNs : Int) : (BusinessTimeZone.fixed offsetNs).Regular := by
  rw [fixed_eq_changedAt]
  exact changedAt_regular (by unfold nsPerDay; omega) (by decide)

/-- Under one offset every date whose 24 hours are in range is a plain day. -/
theorem fixed_plainDay {date : PlainDate} {offsetNs : Int} {m : Instant}
    (midnight : m.epochNs = date.epochDay * nsPerDay - offsetNs)
    (inRange : m.epochNs + nsPerDay ≤ nsMaxInstant) :
    (BusinessTimeZone.fixed offsetNs).PlainDay date m where
  starts := Instant.ofEpochNs_eq_some.mpr midnight
  inRange := inRange
  steady := by
    intro t _ _
    change offsetNs = _
    omega
  once := by
    intro t after today
    have wall := (plainDate_eq_iff.mp today).2
    unfold BusinessTimeZone.wall BusinessTimeZone.localNs at wall
    change t.epochNs + offsetNs - _ < _ at wall
    omega
  apart := by
    intro earlier k before opens
    rw [Instant.ofEpochNs_eq_some.mp opens, midnight]
    unfold nsPerDay
    omega

/-- The slots partition a date if and only if it is a plain day of 24 hours. -/
theorem slots_partition_iff {tz : BusinessTimeZone} {g : SlotGranularity} {date : PlainDate}
    (zone : tz.Regular) : SlotsPartition tz g date ↔ ∃ m, tz.PlainDay date m :=
  ⟨fun part => part.plain zone, fun ⟨_, plain⟩ => partition_of_plain zone plain⟩

theorem slots_partition_iff_tokyo : SlotsPartition Sample.tokyo .half ⟨20584⟩ :=
  (slots_partition_iff (fixed_regular _)).mpr
    ⟨⟨20584 * nsPerDay - 540 * nsPerMinute, by decide⟩, fixed_plainDay rfl (by decide)⟩

namespace Sample

/-- Berlin in the autumn of 2026: two hours ahead of UTC, then one. -/
def berlin : BusinessTimeZone :=
  .changedAt (20751 * nsPerDay + 60 * nsPerMinute) (120 * nsPerMinute) (60 * nsPerMinute)

end Sample

/-- At two o'clock for the second time, three hours of the day are over. -/
theorem autumn_not_partitioned : Sample.berlin.Regular ∧
    ¬ SlotsPartition Sample.berlin .half ⟨20751⟩ := by
  refine ⟨changedAt_regular (by decide) (by decide), fun part => ?_⟩
  obtain ⟨i, found, held⟩ :=
    part.covers ⟨20751 * nsPerDay + 60 * nsPerMinute, by decide⟩ 0 (by decide +kernel)
  have outside : (intervalOf ⟨⟨20751⟩, bucketOf ⟨20751 * nsPerDay + 60 * nsPerMinute, by decide⟩
      Sample.berlin .half, .half, 0⟩ Sample.berlin).all (fun i =>
        !i.holds ⟨20751 * nsPerDay + 60 * nsPerMinute, by decide⟩) = true := by
    decide +kernel
  rw [found] at outside
  simp [held] at outside

end SlotBooking
