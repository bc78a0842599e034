import SlotBooking.Domain.InstantText
import SlotBooking.Shop.SweepRaces

/-! How the queries of the alarm compare a stored time with a cutoff: the text of an instant
with the text of a `Date`, character by character. -/
namespace SlotBooking

/-- The comparison of the queries. -/
def Instant.textBefore (t : Instant) (ms : Int) : Bool := t.text < toISOString ms

/-- The second of an instant, and the nanoseconds after it. -/
def Instant.second (t : Instant) : Int := t.epochNs / nsPerSecond

def Instant.subsecond (t : Instant) : Nat := (t.epochNs % nsPerSecond).toNat

/-- Where the two texts compare as the times do: neither year is alone beyond four digits, two
negative years are one, and within one second neither does the text of the instant break off while
it agrees with the milliseconds, with some of them to come, nor go on after all three. -/
structure Instant.Aligned (t : Instant) (ms : Int) : Prop where
  late : yearOfSecond t.second ≤ 9999 ↔ yearOfSecond (ms / 1000) ≤ 9999
  negative : yearOfSecond t.second < 0 ∧ yearOfSecond (ms / 1000) < 0 →
    yearOfSecond t.second = yearOfSecond (ms / 1000)
  fraction : t.second = ms / 1000 →
    ¬ (t.subsecond < (ms % 1000).toNat * 10 ^ 6 ∧ (t.subsecond = 0 ∨
        t.subsecond = (ms % 1000).toNat / 100 * 10 ^ 8 ∨
        t.subsecond = (ms % 1000).toNat / 10 * 10 ^ 7)) ∧
      ¬ (t.subsecond / 10 ^ 6 = (ms % 1000).toNat ∧ t.subsecond % 10 ^ 6 ≠ 0)

theorem before_iff {t : Instant} {ms : Int} : t.before ms = true ↔ t.second < ms / 1000 ∨
    t.second = ms / 1000 ∧ t.subsecond < (ms % 1000).toNat * 10 ^ 6 := by
  rw [Instant.before, decide_eq_true_iff]
  unfold Instant.second Instant.subsecond nsPerSecond nsPerMs
  omega

theorem textBefore_agrees_iff (t : Instant) (ms : Int) (date : isDate ms = true) :
    t.textBefore ms = t.before ms ↔ t.Aligned ms := by
  have range := t.inRange
  have dateRange : -8640000000000000 ≤ ms ∧ ms ≤ 8640000000000000 := by
    simpa [isDate] using date
  have year : (yearOfSecond t.second).natAbs < 10 ^ 6 := by
    refine year_range ?_ ?_ <;> unfold Instant.second nsPerSecond secondsPerDay <;>
      unfold nsMaxInstant at range <;> omega
  have yearMs : (yearOfSecond (ms / 1000)).natAbs < 10 ^ 6 := by
    refine year_range ?_ ?_ <;> unfold secondsPerDay <;> omega
  rw [Bool.eq_iff_iff, before_iff, Instant.textBefore, decide_eq_true_iff, Instant.text,
    toISOString, List.append_assoc, List.append_assoc]
  change (secondText t.second ++ (fractionText t.subsecond ++ ['Z']) < _ ↔ _) ↔ _
  by_cases same : t.second = ms / 1000
  · have sub : t.subsecond < 10 ^ 9 := by
      unfold Instant.subsecond nsPerSecond
      omega
    have digits : (ms % 1000).toNat < 10 ^ 3 := by omega
    rw [same, Decimal.append_lt_append_iff, or_iff_right (Int.lt_irrefl _), and_iff_right rfl]
    refine (fractionText_agrees sub digits).trans
      ⟨fun aligned => ?_, fun aligned => aligned.fraction same⟩
    exact ⟨by rw [same], fun _ => by rw [same], fun _ => aligned⟩
  · rw [or_iff_left (fun equal => same equal.1), secondText_agrees year yearMs same]
    constructor
    · rintro ⟨late, negative⟩
      exact ⟨late, negative, fun equal => absurd equal same⟩
    · exact fun aligned => ⟨aligned.late, aligned.negative⟩

/-! ### The queries -/

/-- The column which the query of a tick compares. -/
def Tick.time : Tick → TicketRow → Option Instant
  | .moveToOverdue, r => r.calledAt
  | .nudge, r | .markNoShow, r => r.lastNudgedAt
  | .lapseAppointment, r => r.appointmentAt

def Tick.cutoff (rules : SweepRules) : Tick → Int
  | .moveToOverdue => rules.calledCutoff
  | .nudge | .markNoShow => rules.nudgeCutoff
  | .lapseAppointment => rules.appointmentCutoff

/-- What the query asks for beside the time. -/
def Tick.fits (rules : SweepRules) : Tick → TicketRow → Bool
  | .moveToOverdue, r => r.state = .called
  | .nudge, r => r.state = .overdue && (r.nudgeCount : Int) < rules.maxNudges
  | .markNoShow, r => r.state = .overdue && rules.maxNudges ≤ r.nudgeCount
  | .lapseAppointment, r => r.state = .waiting && r.lane = some .reservation

theorem selects_eq {rules : SweepRules} {tick : Tick} {r : TicketRow} {t : Instant}
    (time : tick.time r = some t) :
    tick.selects rules r = (tick.fits rules r && rules.earlier t (tick.cutoff rules)) := by
  cases tick <;> simp only [Tick.time] at time <;> simp only [Tick.selects, Tick.fits, Tick.cutoff,
    time, Option.any_some, Option.all_some]

theorem cutoff_isDate {config : AlarmConfig} {earlier : Instant → Int → Bool} {nowMs : Int}
    {rules : SweepRules} (read : config.rules earlier nowMs = some rules) (tick : Tick) :
    isDate (tick.cutoff rules) = true := by
  unfold AlarmConfig.rules at read
  simp only at read
  split at read
  · rename_i dates
    cases read
    simp only [Bool.and_eq_true] at dates
    cases tick with
    | moveToOverdue => exact dates.1.1
    | nudge | markNoShow => exact dates.1.2
    | lapseAppointment => exact dates.2
  · cases read

/-- A row which meets the other conditions of a query is selected exactly if its time is before
the cutoff, if and only if the two texts are aligned. -/
theorem selects_before_iff (config : AlarmConfig) (nowMs : Int) (rules : SweepRules)
    (read : config.rules Instant.textBefore nowMs = some rules) (tick : Tick) (r : TicketRow)
    (t : Instant) (time : tick.time r = some t) (fits : tick.fits rules r = true) :
    (tick.selects rules r = true ↔ t.before (tick.cutoff rules) = true) ↔
      t.Aligned (tick.cutoff rules) := by
  have text : rules.earlier = Instant.textBefore := by
    rw [AlarmConfig.rules_eq_some read]
  rw [selects_eq time, fits, Bool.true_and, text, ← Bool.eq_iff_iff]
  exact textBefore_agrees_iff t _ (cutoff_isDate read tick)

namespace Sample

/-- The alarm as it compares texts. -/
def textRules : SweepRules := ⟨1, 1, 1, 1, Instant.textBefore⟩

def midnightPorts (k : Nat) : Ports :=
  { ports k with nowInstant := fun _ => ⟨0, by decide⟩ }

/-- Called on the full second. -/
def calledAtMidnight : List (Ports × QueueAction) :=
  [(midnightPorts 1, .issueTicket handle none none none), (midnightPorts 2, .callNext .staff none)]

end Sample

theorem selects_before_iff_sample : ∃ r : TicketRow, ∃ t, r.calledAt = some t ∧
    (Tick.moveToOverdue.selects Sample.textRules r = true ↔ t.before 1 = true) := by
  have row : ∃ r ∈ (runDispatches Sample.unicode Sample.noInstants (Sample.nudgedOnce.take 2)
      .empty).tickets, r.state = .called ∧ r.calledAt = some (Sample.instant 21) := by
    decide
  obtain ⟨r, _, state, time⟩ := row
  refine ⟨r, _, time, ?_⟩
  refine (selects_before_iff Sample.config 2 Sample.textRules rfl .moveToOverdue r _ time
    (decide_eq_true state)).mpr ⟨?_, ?_, fun _ => ?_⟩
  · decide
  · decide
  · decide

/-- A ticket called on the full second, one millisecond before the cutoff, is passed over. -/
theorem full_second_passed_over :
    Sample.config.rules Instant.textBefore 2 = some Sample.textRules ∧
      ∃ r ∈ (runDispatches Sample.unicode Sample.noInstants Sample.calledAtMidnight .empty).tickets,
        r.state = .called ∧ r.calledAt.any (·.before 1) = true ∧
          Tick.moveToOverdue.selects Sample.textRules r = false :=
  ⟨rfl, by decide⟩

end SlotBooking
