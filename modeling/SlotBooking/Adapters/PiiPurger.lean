import SlotBooking.Adapters.Durable
import SlotBooking.Domain.InstantText

/-! The purge of personal data. The stored times are texts of instants, the cutoff is a text of
SQLite, and the statement compares them character by character. -/
namespace SlotBooking

/-- `YYYY-MM-DD HH:MM:SS`, by the seconds since the epoch. -/
def datetimeText (second : Int) : List Char :=
  PlainDate.text ⟨second / secondsPerDay⟩ ++ ' ' :: timeText (second % secondsPerDay).toNat

/-- SQLite's `datetime`, which is documented for the years 0 to 9999. -/
structure Datetime where
  render : Int → Option (List Char)
  documented : ∀ second, 0 ≤ yearOfSecond second → yearOfSecond second ≤ 9999 →
    render second = some (datetimeText second)

/-! ### The statement -/

/-- `Math.round(Duration.toSeconds(olderThan))`. -/
def purgeSeconds (olderThanMs : Nat) : Nat := (olderThanMs + 500) / 1000

/-- `datetime('now', '-' || ? || ' seconds')` drops the fraction of the second. -/
def cutoffSecond (now : Instant) (seconds : Nat) : Int := now.epochNs / nsPerSecond - seconds

/-- `COALESCE(cancelled_at, served_at, marked_at)`. -/
def TicketRow.coalesced (r : TicketRow) : Option Instant :=
  r.cancelledAt.or (r.servedAt.or r.markedAt)

def TicketRow.erased (r : TicketRow) : TicketRow :=
  { r with nameKana := none, phoneLast4 := none, freeText := none }

/-- The condition of the statement; a comparison with NULL is not true. -/
def isPurged (cutoff : Option (List Char)) (r : TicketRow) : Bool :=
  (r.state = .cancelled || r.state = .served || r.state = .noShow) &&
    (match r.coalesced, cutoff with
      | some t, some text => !decide (text < t.text)
      | _, _ => false) &&
    r.nameKana.isSome

/-- The rows afterwards, and how many have changed. -/
def purgeOlderThan (sqlite : Datetime) (now : Instant) (olderThanMs : Nat)
    (tickets : List TicketRow) : List TicketRow × Nat :=
  let cutoff := sqlite.render (cutoffSecond now (purgeSeconds olderThanMs))
  (tickets.map (fun r => if isPurged cutoff r then r.erased else r),
    tickets.countP (isPurged cutoff))

/-! ### What is due -/

/-- The state and the times of its end are those of some ticket. -/
def TicketRow.Written (r : TicketRow) : Prop :=
  ∃ next revision payload, r.state = (ticketColumns next revision payload).state ∧
    r.cancelledAt = (ticketColumns next revision payload).cancelledAt ∧
    r.servedAt = (ticketColumns next revision payload).servedAt ∧
    r.markedAt = (ticketColumns next revision payload).markedAt

/-- The time it was cancelled, served or marked. -/
def TicketRow.terminalAt (r : TicketRow) : Option Instant :=
  match r.state with
  | .cancelled => r.cancelledAt
  | .served => r.servedAt
  | .noShow => r.markedAt
  | .waiting | .called | .overdue => none

def TicketRow.isDue (now : Instant) (seconds : Nat) (r : TicketRow) : Bool :=
  r.nameKana.isSome && r.terminalAt.any (fun t => t.epochNs ≤ now.epochNs - seconds * nsPerSecond)

/-- The rows which are due are erased and counted, and no others. -/
def PurgesDue (sqlite : Datetime) (now : Instant) (seconds : Nat) (tickets : List TicketRow) :
    Prop :=
  purgeOlderThan sqlite now (1000 * seconds) tickets =
    (tickets.map (fun r => if r.isDue now seconds then r.erased else r),
      tickets.countP (TicketRow.isDue now seconds))

/-- The day of an instant in UTC. -/
def Instant.epochDay (t : Instant) : Int := t.epochNs / nsPerSecond / secondsPerDay

/-- A row with a name has not ended after the year 9999, nor on the date of the cutoff up to
it. -/
def TicketRow.Comparable (now : Instant) (seconds : Nat) (r : TicketRow) : Prop :=
  r.nameKana.isSome → ∀ t, r.terminalAt = some t → Calendar.yearFromDay t.epochDay ≤ 9999 ∧
    (t.epochDay = cutoffSecond now seconds / secondsPerDay →
      now.epochNs - seconds * nsPerSecond < t.epochNs)

section
variable {t now : Instant} {second : Int} {seconds : Nat} {r : TicketRow}

/-! ### The two texts -/

theorem text_eq (t : Instant) : t.text = PlainDate.text ⟨t.epochDay⟩ ++
    'T' :: (timeText (t.epochNs / nsPerSecond % secondsPerDay).toNat ++
      (fractionText (t.epochNs % nsPerSecond).toNat ++ ['Z'])) := by
  simp [Instant.text, secondText, Instant.epochDay]

/-- On one date the blank of the cutoff comes before the `T` of every instant. -/
theorem datetimeText_lt_same (same : t.epochDay = second / secondsPerDay) :
    datetimeText second < t.text := by
  rw [text_eq, same, datetimeText, Decimal.append_lt_append_iff]
  exact List.cons_lt_cons_iff.mpr (.inl (by decide))

theorem epochDay_year (t : Instant) : (Calendar.yearFromDay t.epochDay).natAbs < 10 ^ 6 := by
  have range := t.inRange
  refine year_range ?_ ?_ <;> unfold Instant.epochDay nsPerSecond secondsPerDay <;>
    unfold nsMaxInstant at range <;> omega

/-- On two dates the texts compare as the dates, up to the year 9999. -/
theorem datetimeText_lt_other (lower : 0 ≤ yearOfSecond second) (upper : yearOfSecond second ≤ 9999)
    (other : t.epochDay ≠ second / secondsPerDay) :
    ((datetimeText second < t.text ↔ second / secondsPerDay < t.epochDay) ↔
      Calendar.yearFromDay t.epochDay ≤ 9999) := by
  have small : (yearOfSecond second).natAbs < 10 ^ 6 := by omega
  rw [text_eq, datetimeText, dateText_agrees small (epochDay_year t) other.symm]
  unfold yearOfSecond at lower upper
  omega

theorem due_iff_day (other : t.epochDay ≠ cutoffSecond now seconds / secondsPerDay) :
    t.epochNs ≤ now.epochNs - seconds * nsPerSecond ↔
      ¬ cutoffSecond now seconds / secondsPerDay < t.epochDay := by
  unfold Instant.epochDay cutoffSecond at *
  unfold nsPerSecond secondsPerDay at *
  omega

/-! ### One row -/

theorem coalesced_eq (written : r.Written)
    (ended : r.state = .cancelled ∨ r.state = .served ∨ r.state = .noShow) :
    r.coalesced = r.terminalAt ∧ r.terminalAt.isSome := by
  obtain ⟨next, revision, payload, state, cancelled, served, marked⟩ := written
  rw [TicketRow.coalesced, TicketRow.terminalAt, state, cancelled, served, marked]
  rw [state] at ended
  simp only [ticketColumns, Ticket.state] at ended ⊢
  generalize next.variant = variant at ended ⊢
  cases variant <;> simp [TicketVariant.state, TicketVariant.cancelled?, TicketVariant.served?,
    TicketVariant.marked?] at ended ⊢

theorem terminalAt_eq_none (open_ : ¬ (r.state = .cancelled ∨ r.state = .served ∨
    r.state = .noShow)) : r.terminalAt = none := by
  rw [TicketRow.terminalAt]
  cases state : r.state <;> simp_all

/-- What is told of one time. -/
theorem text_agrees_iff (lower : 0 ≤ yearOfSecond (cutoffSecond now seconds))
    (upper : yearOfSecond (cutoffSecond now seconds) ≤ 9999) :
    ((¬ datetimeText (cutoffSecond now seconds) < t.text) ↔
        t.epochNs ≤ now.epochNs - seconds * nsPerSecond) ↔
      Calendar.yearFromDay t.epochDay ≤ 9999 ∧
        (t.epochDay = cutoffSecond now seconds / secondsPerDay →
          now.epochNs - seconds * nsPerSecond < t.epochNs) := by
  by_cases same : t.epochDay = cutoffSecond now seconds / secondsPerDay
  · have less : datetimeText (cutoffSecond now seconds) < t.text := datetimeText_lt_same same
    have year : Calendar.yearFromDay (cutoffSecond now seconds / secondsPerDay) ≤ 9999 := upper
    simp only [less, not_true, false_iff, not_le, year, same, true_and, forall_const]
  · have agrees := datetimeText_lt_other lower upper same
    simp only [same, false_implies, and_true, due_iff_day same, ← agrees]
    exact not_iff_not

theorem isPurged_eq_isDue_iff (written : r.Written)
    (lower : 0 ≤ yearOfSecond (cutoffSecond now seconds))
    (upper : yearOfSecond (cutoffSecond now seconds) ≤ 9999) :
    isPurged (some (datetimeText (cutoffSecond now seconds))) r = r.isDue now seconds ↔
      r.Comparable now seconds := by
  by_cases ended : r.state = .cancelled ∨ r.state = .served ∨ r.state = .noShow
  · obtain ⟨same, isSome⟩ := coalesced_eq written ended
    obtain ⟨t, time⟩ := Option.isSome_iff_exists.mp isSome
    have terminal : (r.state = .cancelled || r.state = .served || r.state = .noShow) = true := by
      simpa [or_assoc] using ended
    simp only [isPurged, TicketRow.isDue, TicketRow.Comparable, terminal, same, time]
    cases r.nameKana with
    | none => simp
    | some name =>
      simp only [Option.isSome_some, Bool.true_and, Bool.and_true, Option.any_some, forall_const,
        Option.some.injEq, forall_eq']
      rw [Bool.eq_iff_iff, Bool.not_eq_true', decide_eq_false_iff_not, decide_eq_true_iff]
      exact text_agrees_iff lower upper
  · have none_ := terminalAt_eq_none ended
    have terminal : (r.state = .cancelled || r.state = .served || r.state = .noShow) = false := by
      simpa [and_assoc] using ended
    simp [isPurged, TicketRow.isDue, TicketRow.Comparable, terminal, none_]

/-! ### The table -/

theorem purgeSeconds_whole (seconds : Nat) : purgeSeconds (1000 * seconds) = seconds := by
  unfold purgeSeconds
  omega

theorem erased_ne (named : r.nameKana.isSome = true) : r.erased ≠ r := by
  intro same
  rw [← same] at named
  cases named

/-- Erasing by two conditions which both ask for a name comes to the same only if they agree. -/
theorem map_erased_inj {p q : TicketRow → Bool} {rows : List TicketRow}
    (hp : ∀ r, p r = true → r.nameKana.isSome = true)
    (hq : ∀ r, q r = true → r.nameKana.isSome = true) :
    rows.map (fun r => if p r then r.erased else r) =
        rows.map (fun r => if q r then r.erased else r) ↔ ∀ r ∈ rows, p r = q r := by
  rw [List.map_inj_left]
  refine forall₂_congr (fun r _ => ⟨fun same => ?_, fun same => by rw [same]⟩)
  cases isP : p r <;> cases isQ : q r <;> simp only [isP, isQ] at same
  · rfl
  · exact absurd same.symm (erased_ne (hq r isQ))
  · exact absurd same (erased_ne (hp r isP))
  · rfl

end

/-- The purge erases exactly what is due, if and only if the times of all rows with a name are
comparable with its cutoff. -/
theorem purges_due_iff (sqlite : Datetime) (now : Instant) (seconds : Nat)
    (lower : 0 ≤ yearOfSecond (cutoffSecond now seconds))
    (upper : yearOfSecond (cutoffSecond now seconds) ≤ 9999) (tickets : List TicketRow)
    (written : ∀ r ∈ tickets, r.Written) :
    PurgesDue sqlite now seconds tickets ↔ ∀ r ∈ tickets, r.Comparable now seconds := by
  have cutoff := sqlite.documented _ lower upper
  have rows : (∀ r ∈ tickets, r.Comparable now seconds) ↔ ∀ r ∈ tickets,
      isPurged (some (datetimeText (cutoffSecond now seconds))) r = r.isDue now seconds :=
    forall₂_congr (fun r mem => (isPurged_eq_isDue_iff (written r mem) lower upper).symm)
  rw [PurgesDue, purgeOlderThan, purgeSeconds_whole, cutoff, Prod.mk.injEq, rows, map_erased_inj]
  · exact and_iff_left_of_imp (fun same => List.countP_congr (fun r mem => by rw [same r mem]))
  · intro r purged
    simp only [isPurged, Bool.and_eq_true] at purged
    exact purged.2
  · intro r due
    rw [TicketRow.isDue, Bool.and_eq_true] at due
    exact due.1

namespace Sample

def sqlite : Datetime where
  render second :=
    if 0 ≤ yearOfSecond second ∧ yearOfSecond second ≤ 9999 then some (datetimeText second) else none
  documented _ lower upper := if_pos ⟨lower, upper⟩

def visitor (t : Instant) : TicketCommon :=
  { nameKana := [], phoneLast4 := [], freeText := none, id := ⟨1⟩, seq := 1, lane := .walkIn,
    displaySeq := 1, issuedAt := t, appointmentAt := none, checkedInAt := none }

def servedTicket (t : Instant) : Ticket := ⟨visitor t, .served ⟨t, .staff⟩ t .staff⟩

/-- The row of a customer who was served at an instant. -/
def servedRow (t : Instant) : TicketRow :=
  ticketColumns (servedTicket t) 3 ⟨servedTicket t⟩

/-- Two years, as the scheduled handler has them. -/
def twoYears : Nat := 365 * 2 * 86400

/-- 2026-01-01T12:00:00Z, two years after noon of 2024-01-02. -/
def purgedAt : Instant := ⟨1767268800000000000, by decide⟩

def dayBefore : TicketRow := servedRow ⟨1704067200000000000, by decide⟩

def sameDay : TicketRow := servedRow ⟨1704153600000000000, by decide⟩

theorem servedRow_written (t : Instant) : (servedRow t).Written :=
  ⟨servedTicket t, 3, ⟨servedTicket t⟩, rfl, rfl, rfl, rfl⟩

end Sample

theorem purges_due_day_before :
    PurgesDue Sample.sqlite Sample.purgedAt Sample.twoYears [Sample.dayBefore] := by
  refine (purges_due_iff Sample.sqlite Sample.purgedAt Sample.twoYears (by decide)
    (by decide) [Sample.dayBefore] ?_).mpr ?_
  · intro r mem
    rw [List.mem_singleton.mp mem]
    exact Sample.servedRow_written _
  · intro r mem named t time
    rw [List.mem_singleton.mp mem] at time
    have same : t = ⟨1704067200000000000, by decide⟩ := (Option.some.inj time).symm
    rw [same]
    decide

/-- Served at midnight and due at noon, twelve hours ago by now, the row keeps its name. -/
theorem same_day_kept : Sample.sameDay.Written ∧
    Sample.sameDay.isDue Sample.purgedAt Sample.twoYears = true ∧
    purgeOlderThan Sample.sqlite Sample.purgedAt (1000 * Sample.twoYears) [Sample.sameDay] =
      ([Sample.sameDay], 0) ∧
    ¬ PurgesDue Sample.sqlite Sample.purgedAt Sample.twoYears [Sample.sameDay] := by
  have kept : purgeOlderThan Sample.sqlite Sample.purgedAt (1000 * Sample.twoYears)
      [Sample.sameDay] = ([Sample.sameDay], 0) := by decide
  have due : Sample.sameDay.isDue Sample.purgedAt Sample.twoYears = true := by decide
  refine ⟨Sample.servedRow_written _, due, kept, fun all => ?_⟩
  rw [PurgesDue, kept] at all
  simp [due] at all

end SlotBooking
