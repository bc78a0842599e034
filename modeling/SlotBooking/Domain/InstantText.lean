import Mathlib.Data.Int.Order.Basic
import SlotBooking.Domain.Time
import SlotBooking.Library.Calendar
import SlotBooking.Library.Decimal

/-! The texts of instants. Temporal writes as many digits of the fraction as there are, a `Date`
always three; both write years outside of four digits with a sign and six. -/
namespace SlotBooking

def nsPerSecond : Int := 1000000000
def secondsPerDay : Int := 86400

def yearText (y : Int) : List Char :=
  if 0 ≤ y ∧ y ≤ 9999 then Decimal.digits 4 y.toNat
  else (if y < 0 then '-' else '+') :: Decimal.digits 6 y.natAbs

def monthDayText (day : Int) : List Char :=
  '-' :: Decimal.digits 2 (Calendar.month day) ++ '-' :: Decimal.digits 2 (Calendar.dayOfMonth day)

def PlainDate.text (date : PlainDate) : List Char :=
  yearText (Calendar.yearFromDay date.epochDay) ++ monthDayText date.epochDay

/-- Hours, minutes and seconds of a day. -/
def timeText (second : Nat) : List Char :=
  Decimal.digits 2 (second / 60 / 60) ++ ':' :: Decimal.digits 2 (second / 60 % 60) ++
    ':' :: Decimal.digits 2 (second % 60)

/-- Date and time up to the second, by the seconds since the epoch. -/
def secondText (second : Int) : List Char :=
  PlainDate.text ⟨second / secondsPerDay⟩ ++ 'T' :: timeText (second % secondsPerDay).toNat

def fractionText (ns : Nat) : List Char := if ns = 0 then [] else '.' :: Decimal.trimmed 9 ns

/-- `Temporal.Instant.prototype.toString`. -/
def Instant.text (t : Instant) : List Char :=
  secondText (t.epochNs / nsPerSecond) ++ fractionText (t.epochNs % nsPerSecond).toNat ++ ['Z']

/-- `Date.prototype.toISOString`, by the milliseconds since the epoch. -/
def toISOString (ms : Int) : List Char :=
  secondText (ms / 1000) ++ '.' :: Decimal.digits 3 (ms % 1000).toNat ++ ['Z']

/-- The year of a second since the epoch. -/
def yearOfSecond (second : Int) : Int := Calendar.yearFromDay (second / secondsPerDay)

example : (Instant.text ⟨1767225600250000000, by decide⟩ = "2026-01-01T00:00:00.25Z".toList) ∧
    toISOString 1767225600250 = "2026-01-01T00:00:00.250Z".toList := by decide

/-! ### Years -/

section
variable {y z : Int} {v w : List Char}

theorem yearText_plain (plain : 0 ≤ y ∧ y ≤ 9999) : yearText y = Decimal.digits 4 y.toNat :=
  if_pos plain

theorem yearText_negative (negative : y < 0) : yearText y = '-' :: Decimal.digits 6 y.natAbs := by
  rw [yearText, if_neg (fun plain => by omega), if_pos negative]

theorem yearText_late (late : 9999 < y) : yearText y = '+' :: Decimal.digits 6 y.natAbs := by
  rw [yearText, if_neg (fun plain => by omega), if_neg (by omega)]

/-- A sign comes before every digit. -/
theorem sign_lt_plain {sign : Char} (isSign : ∀ d < 10, sign < Nat.digitChar d) {tail : List Char}
    (plain : 0 ≤ y ∧ y ≤ 9999) : sign :: tail ++ v < yearText y ++ w := by
  obtain ⟨d, rest, small, head⟩ := Decimal.digits_head 3 y.toNat
  rw [yearText_plain plain, head]
  exact List.cons_lt_cons_iff.mpr (.inl (isSign d small))

theorem signed_lt_iff (sign : Char) (hy : y.natAbs < 10 ^ 6) (hz : z.natAbs < 10 ^ 6)
    (different : y.natAbs ≠ z.natAbs) :
    sign :: Decimal.digits 6 y.natAbs ++ v < sign :: Decimal.digits 6 z.natAbs ++ w ↔
      y.natAbs < z.natAbs := by
  rw [((Decimal.ordered_digits 6).cons sign) _ _ hy hz]
  exact or_iff_left (fun equal => different equal.1)

/-- The texts of two different years compare as the years, unless one of them only is beyond
four digits or both are negative. -/
theorem yearText_agrees (hy : y.natAbs < 10 ^ 6) (hz : z.natAbs < 10 ^ 6) (different : y ≠ z) :
    ((yearText y ++ v < yearText z ++ w ↔ y < z) ↔
      ((y ≤ 9999 ↔ z ≤ 9999) ∧ ¬ (y < 0 ∧ z < 0))) := by
  have minus : ∀ d < 10, '-' < Nat.digitChar d := by decide
  have plus : ∀ d < 10, '+' < Nat.digitChar d := by decide
  have signs : ∀ {s t : List Char}, '+' :: s < '-' :: t :=
    List.cons_lt_cons_iff.mpr (.inl (by decide))
  have classes : ∀ x : Int, x < 0 ∨ (0 ≤ x ∧ x ≤ 9999) ∨ 9999 < x := by omega
  rcases classes y with hy' | hy' | hy' <;> rcases classes z with hz' | hz' | hz'
  · rw [yearText_negative hy', yearText_negative hz', signed_lt_iff '-' hy hz (by omega)]
    omega
  · have less : yearText y ++ v < yearText z ++ w := by
      rw [yearText_negative hy']
      exact sign_lt_plain minus hz'
    simp only [less, true_iff]
    omega
  · have notLess : ¬ yearText y ++ v < yearText z ++ w := by
      rw [yearText_negative hy', yearText_late hz']
      exact List.lt_asymm signs
    simp only [notLess, false_iff]
    omega
  · have notLess : ¬ yearText y ++ v < yearText z ++ w := by
      rw [yearText_negative hz']
      exact List.lt_asymm (sign_lt_plain minus hy')
    simp only [notLess, false_iff]
    omega
  · have digits := Decimal.ordered_digits 4 y.toNat z.toNat (by omega) (by omega) v w
    rw [yearText_plain hy', yearText_plain hz', digits, or_iff_left (by omega)]
    omega
  · have notLess : ¬ yearText y ++ v < yearText z ++ w := by
      rw [yearText_late hz']
      exact List.lt_asymm (sign_lt_plain plus hy')
    simp only [notLess, false_iff]
    omega
  · have less : yearText y ++ v < yearText z ++ w := by
      rw [yearText_late hy', yearText_negative hz']
      exact signs
    simp only [less, true_iff]
    omega
  · have less : yearText y ++ v < yearText z ++ w := by
      rw [yearText_late hy']
      exact sign_lt_plain plus hz'
    simp only [less, true_iff]
    omega
  · rw [yearText_late hy', yearText_late hz', signed_lt_iff '+' hy hz (by omega)]
    omega

end

/-- The dates of Temporal go one day further back than its instants; their years have six digits
at most. -/
theorem year_range {day : Int} (lower : -100000001 ≤ day) (upper : day ≤ 100000000) :
    (Calendar.yearFromDay day).natAbs < 10 ^ 6 := by
  have bounds := Calendar.yearFromDay_bounds day
  unfold Calendar.dayFromYear at bounds
  omega

/-! ### Within a year -/

theorem ordered_monthDayText (y : Int) :
    Decimal.Ordered (fun day => Calendar.yearFromDay day = y) monthDayText := by
  have two : Decimal.Ordered (· < 10 ^ 2) (fun n => '-' :: Decimal.digits 2 n) :=
    (Decimal.ordered_digits 2).cons '-'
  refine two.pair two (φ := Calendar.month) (ψ := Calendar.dayOfMonth) ?_ ?_ ?_
  · exact fun day _ => Nat.lt_trans (Calendar.month_bounds day).1 (by decide)
  · exact fun day _ => Nat.lt_trans (Calendar.month_bounds day).2 (by decide)
  · intro a b ha hb
    have same : Calendar.yearFromDay a = Calendar.yearFromDay b := ha.trans hb.symm
    rw [← Calendar.dayInYear_lt_iff same, Calendar.day_lt_iff]
    simp [same]

/-- Texts which begin with the year and go on in the order of their values, whatever follows. -/
theorem yearFirst_agrees {year : Int → Int} {rest : Int → List Char}
    (ordered : ∀ y, Decimal.Ordered (fun a => year a = y) rest)
    (decides : ∀ a b, year a ≠ year b → (a < b ↔ year a < year b)) {a b : Int}
    (ha : (year a).natAbs < 10 ^ 6) (hb : (year b).natAbs < 10 ^ 6) (different : a ≠ b)
    (v w : List Char) :
    ((yearText (year a) ++ (rest a ++ v) < yearText (year b) ++ (rest b ++ w) ↔ a < b) ↔
      ((year a ≤ 9999 ↔ year b ≤ 9999) ∧ (year a < 0 ∧ year b < 0 → year a = year b))) := by
  by_cases same : year a = year b
  · rw [same, Decimal.append_lt_append_iff, ordered _ a b same rfl,
      or_iff_left (fun equal => different equal.1)]
    simp
  · rw [decides a b same, yearText_agrees ha hb same]
    exact and_congr_right (fun _ =>
      ⟨fun no both => absurd both no, fun yes both => same (yes both)⟩)

theorem dateText_agrees {a b : Int} (ha : (Calendar.yearFromDay a).natAbs < 10 ^ 6)
    (hb : (Calendar.yearFromDay b).natAbs < 10 ^ 6) (different : a ≠ b) (v w : List Char) :
    ((PlainDate.text ⟨a⟩ ++ v < PlainDate.text ⟨b⟩ ++ w ↔ a < b) ↔
      ((Calendar.yearFromDay a ≤ 9999 ↔ Calendar.yearFromDay b ≤ 9999) ∧
        (Calendar.yearFromDay a < 0 ∧ Calendar.yearFromDay b < 0 →
          Calendar.yearFromDay a = Calendar.yearFromDay b))) := by
  simp only [PlainDate.text, List.append_assoc]
  refine yearFirst_agrees ordered_monthDayText (fun a b other => ?_) ha hb different v w
  exact Calendar.day_lt_iff.trans (or_iff_left fun equal => other equal.1)

theorem ordered_timeText : Decimal.Ordered (· < 86400) timeText := by
  have digits := Decimal.ordered_digits 2
  have two : Decimal.Ordered (· < 60) (fun n => ':' :: Decimal.digits 2 n) :=
    (digits.cons ':').weaken (fun n bound => Nat.lt_trans bound (by decide))
  have minutes : Decimal.Ordered (· < 1440)
      (fun n => Decimal.digits 2 (n / 60) ++ ':' :: Decimal.digits 2 (n % 60)) :=
    Decimal.Ordered.divMod 60 digits two (by decide) (fun n bound => by omega)
  exact Decimal.Ordered.divMod 60 minutes two (by decide) (fun n bound => by omega)

/-- The part of the text after the year, up to the second. -/
def afterYearText (second : Int) : List Char :=
  monthDayText (second / secondsPerDay) ++ 'T' :: timeText (second % secondsPerDay).toNat

theorem secondText_append (second : Int) (rest : List Char) :
    secondText second ++ rest =
      yearText (yearOfSecond second) ++ (afterYearText second ++ rest) := by
  simp only [secondText, PlainDate.text, afterYearText, yearOfSecond, List.append_assoc]

theorem second_lt_iff {a b : Int} : a < b ↔ a / secondsPerDay < b / secondsPerDay ∨
    a / secondsPerDay = b / secondsPerDay ∧
      (a % secondsPerDay).toNat < (b % secondsPerDay).toNat := by
  unfold secondsPerDay
  omega

theorem ordered_afterYearText (y : Int) :
    Decimal.Ordered (fun second => yearOfSecond second = y) afterYearText := by
  refine (ordered_monthDayText y).pair (ordered_timeText.cons 'T') (φ := fun s => s / secondsPerDay)
    (ψ := fun s => (s % secondsPerDay).toNat) (fun _ same => same) ?_ (fun _ _ _ _ => second_lt_iff)
  intro second _
  unfold secondsPerDay
  omega

theorem secondText_agrees {a b : Int} (ha : (yearOfSecond a).natAbs < 10 ^ 6)
    (hb : (yearOfSecond b).natAbs < 10 ^ 6) (different : a ≠ b) (v w : List Char) :
    ((secondText a ++ v < secondText b ++ w ↔ a < b) ↔
      ((yearOfSecond a ≤ 9999 ↔ yearOfSecond b ≤ 9999) ∧
        (yearOfSecond a < 0 ∧ yearOfSecond b < 0 → yearOfSecond a = yearOfSecond b))) := by
  rw [secondText_append, secondText_append]
  refine yearFirst_agrees ordered_afterYearText (fun a b other => ?_) ha hb different v w
  have days : a / secondsPerDay ≠ b / secondsPerDay :=
    fun day => other (congrArg Calendar.yearFromDay day)
  rw [second_lt_iff, or_iff_left (fun equal => days equal.1), Calendar.day_lt_iff]
  exact or_iff_left (fun equal => other equal.1)

/-! ### Fractions -/

/-- The text of a fraction, with the mark after it, against the text of the milliseconds `m`. The
mark is beyond every digit, so a fraction which stops early is taken for later than it is, and one
which goes on for earlier. -/
theorem fractionText_agrees {n m : Nat} (hn : n < 10 ^ 9) (hm : m < 10 ^ 3) :
    ((fractionText n ++ ['Z'] < '.' :: Decimal.digits 3 m ++ ['Z'] ↔ n < m * 10 ^ 6) ↔
      ¬ (n < m * 10 ^ 6 ∧ (n = 0 ∨ n = m / 100 * 10 ^ 8 ∨ n = m / 10 * 10 ^ 7)) ∧
        ¬ (n / 10 ^ 6 = m ∧ n % 10 ^ 6 ≠ 0)) := by
  have beyond : ∀ d < 10, Nat.digitChar d < 'Z' := by decide
  by_cases zero : n = 0
  · have notLess : ¬ ['Z'] < '.' :: Decimal.digits 3 m ++ ['Z'] :=
      List.lt_asymm (List.cons_lt_cons_iff.mpr (.inl (by decide)))
    rw [fractionText, if_pos zero, List.nil_append]
    simp only [notLess, false_iff]
    omega
  · rw [fractionText, if_neg zero, List.cons_append, List.cons_append, List.cons_lt_cons_self]
    by_cases whole : n % 10 ^ 6 = 0
    · obtain ⟨j, le, rest, last, compared⟩ :=
        Decimal.trimmed_lt_digits beyond 3 (n := n / 10 ^ 6) (m := m) (by omega) hm
      rw [Decimal.trimmed_add_of_zeros 3 (k := 6) whole, compared]
      have few : j = 0 ∨ j = 1 ∨ j = 2 ∨ j = 3 := by omega
      rcases few with rfl | rfl | rfl | rfl <;> omega
    · rw [Decimal.trimmed_add_lt_digits beyond 3 (k := 6) hn hm whole]
      omega

end SlotBooking
