import SlotBooking.Domain.InstantText

/-! How Temporal reads the text of an instant which states its time in UTC, up to the second at
least. What it writes is read back as it was. -/
namespace SlotBooking

/-- Four digits, or a sign and six; there is no negative zero. -/
def readYear : List Char → Option (Int × List Char)
  | '+' :: cs => (Decimal.read 6 0 cs).map (fun r => ((r.1 : Int), r.2))
  | '-' :: cs => (Decimal.read 6 0 cs).bind (fun r => if r.1 = 0 then none else some (-r.1, r.2))
  | cs => (Decimal.read 4 0 cs).map (fun r => ((r.1 : Int), r.2))

/-- Two digits after a mark. -/
def readField (mark : Char) : List Char → Option (Nat × List Char)
  | c :: cs => if c = mark then Decimal.read 2 0 cs else none
  | [] => none

def readDate (text : List Char) : Option (PlainDate × List Char) := do
  let (year, cs) ← readYear text
  let (month, cs) ← readField '-' cs
  let (day, cs) ← readField '-' cs
  let epochDay ← Calendar.dayFromDate year month day
  return (⟨epochDay⟩, cs)

/-- The nanoseconds, of one digit or up to nine; none where there is no fraction. -/
def readFraction : List Char → Option (Nat × List Char)
  | '.' :: c :: cs => if c.isDigit then some (Decimal.readTrimmed 9 0 (c :: cs)) else none
  | ['.'] => none
  | cs => some (0, cs)

/-- A leap second is the second before it. -/
def readTime (text : List Char) : Option (Nat × List Char) := do
  let (hour, cs) ← readField 'T' text
  let (minute, cs) ← readField ':' cs
  let (second, cs) ← readField ':' cs
  if hour < 24 ∧ minute < 60 ∧ second ≤ 60 then
    return ((hour * 60 + minute) * 60 + min second 59, cs)
  else none

/-- `Temporal.Instant.from`, on texts of the extended format in UTC. -/
def Instant.ofText (text : List Char) : Option Instant := do
  let (date, cs) ← readDate text
  let (second, cs) ← readTime cs
  let (ns, cs) ← readFraction cs
  if cs = ['Z'] then
    Instant.ofEpochNs (date.epochDay * nsPerDay + second * nsPerSecond + ns)
  else none

section
variable {cs : List Char}

theorem readYear_text {y : Int} (bound : y.natAbs < 10 ^ 6) :
    readYear (yearText y ++ cs) = some (y, cs) := by
  by_cases plain : 0 ≤ y ∧ y ≤ 9999
  · have small : y.toNat < 10 ^ 4 := by omega
    have read := Decimal.read_digits_self small cs
    obtain ⟨d, tail, digit, head⟩ := Decimal.digits_head 3 y.toNat
    have notSign : ∀ d < 10, Nat.digitChar d ≠ '+' ∧ Nat.digitChar d ≠ '-' := by decide
    rw [yearText_plain plain]
    rw [head] at read ⊢
    rw [List.cons_append] at read ⊢
    rw [readYear, read, Option.map_some, Int.toNat_of_nonneg plain.1]
    · exact fun rest same => (notSign d digit).1 (List.cons.inj same).1
    · exact fun rest same => (notSign d digit).2 (List.cons.inj same).1
  · rcases Int.lt_or_le y 0 with negative | nonneg
    · have nonzero : y.natAbs ≠ 0 := by omega
      rw [yearText_negative negative, List.cons_append, readYear,
        Decimal.read_digits_self bound, Option.bind_some, if_neg nonzero]
      congr
      omega
    · rw [yearText_late (by omega), List.cons_append, readYear, Decimal.read_digits_self bound,
        Option.map_some]
      congr
      omega

theorem readField_digits {mark : Char} {n : Nat} (bound : n < 100) :
    readField mark (mark :: (Decimal.digits 2 n ++ cs)) = some (n, cs) := by
  rw [readField, if_pos rfl]
  exact Decimal.read_digits_self bound cs

/-- The dates of Temporal. -/
def PlainDate.Valid (date : PlainDate) : Prop :=
  -100000001 ≤ date.epochDay ∧ date.epochDay ≤ 100000000

theorem readDate_text {date : PlainDate} (valid : date.Valid) :
    readDate (date.text ++ cs) = some (date, cs) := by
  obtain ⟨month, day⟩ := Calendar.month_bounds date.epochDay
  have month' : Calendar.month date.epochDay < 100 := by omega
  have day' : Calendar.dayOfMonth date.epochDay < 100 := by omega
  simp only [readDate, PlainDate.text, monthDayText, List.append_assoc, List.cons_append, bind,
    readYear_text (year_range valid.1 valid.2), readField_digits month', readField_digits day',
    Calendar.dayFromDate_self, Option.bind_some, pure]

theorem readTime_text {second : Nat} (inDay : second < 86400) :
    readTime ('T' :: timeText second ++ cs) = some (second, cs) := by
  have hour : second / 60 / 60 < 24 := by omega
  have minute : second / 60 % 60 < 60 := Nat.mod_lt _ (by decide)
  have whole : (second / 60 / 60 * 60 + second / 60 % 60) * 60 + min (second % 60) 59 = second := by
    omega
  have second' : second % 60 < 100 := by omega
  simp only [readTime, timeText, List.append_assoc, List.cons_append, bind,
    readField_digits (Nat.lt_trans hour (by decide)),
    readField_digits (Nat.lt_trans minute (by decide)), readField_digits second', Option.bind_some]
  rw [if_pos ⟨hour, minute, by omega⟩, whole]
  rfl

theorem ofText_secondText {second : Int} (valid : PlainDate.Valid ⟨second / secondsPerDay⟩)
    {ns : Nat} (fraction : readFraction cs = some (ns, ['Z'])) :
    Instant.ofText (secondText second ++ cs) =
      Instant.ofEpochNs (second * nsPerSecond + ns) := by
  have inDay : (second % secondsPerDay).toNat < 86400 := by
    unfold secondsPerDay
    omega
  have total : second / secondsPerDay * nsPerDay +
      ((second % secondsPerDay).toNat : Int) * nsPerSecond + ns = second * nsPerSecond + ns := by
    unfold secondsPerDay nsPerDay nsPerSecond
    omega
  rw [Instant.ofText, secondText, List.append_assoc, readDate_text valid]
  simp only [bind, Option.bind_some]
  rw [readTime_text inDay]
  simp only [Option.bind_some, fraction, if_true, total]

end

end SlotBooking
