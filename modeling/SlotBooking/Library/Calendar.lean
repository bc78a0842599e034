import Mathlib.Algebra.Order.Ring.Nat
import Mathlib.Data.Int.DivMod

/-! The proleptic Gregorian calendar over the days since 1970-01-01. -/
namespace Calendar

/-- The day on which a year starts. -/
def dayFromYear (y : Int) : Int :=
  365 * (y - 1970) + (y - 1969) / 4 - (y - 1901) / 100 + (y - 1601) / 400

def isLeap (y : Int) : Bool := y % 4 = 0 && (y % 100 ≠ 0 || y % 400 = 0)

/-- The mean length of a year gives the year, or one of its neighbours. -/
def yearFromDay (day : Int) : Int :=
  let y := 400 * day / 146097 + 1970
  if dayFromYear (y + 1) ≤ day then y + 1 else if day < dayFromYear y then y - 1 else y

def monthLengths (leap : Bool) : List Nat :=
  [31, if leap then 29 else 28, 31, 30, 31, 30, 31, 31, 30, 31, 30, 31]

/-- The number of whole months before a day of the year, and the days after them. -/
def monthAndDay : List Nat → Nat → Nat × Nat
  | [], d => (0, d)
  | length :: lengths, d =>
    if d < length then (0, d)
    else ((monthAndDay lengths (d - length)).1 + 1, (monthAndDay lengths (d - length)).2)

/-- The days since the start of the year. -/
def dayInYear (day : Int) : Nat := (day - dayFromYear (yearFromDay day)).toNat

def monthLengthsOf (day : Int) : List Nat := monthLengths (isLeap (yearFromDay day))

def month (day : Int) : Nat := (monthAndDay (monthLengthsOf day) (dayInYear day)).1 + 1

def dayOfMonth (day : Int) : Nat := (monthAndDay (monthLengthsOf day) (dayInYear day)).2 + 1

theorem dayFromYear_succ (y : Int) :
    dayFromYear (y + 1) = dayFromYear y + (monthLengths (isLeap y)).sum := by
  unfold dayFromYear
  cases leap : isLeap y with
  | true =>
    simp only [isLeap, Bool.and_eq_true, Bool.or_eq_true, decide_eq_true_eq] at leap
    simp only [monthLengths, List.sum_cons, List.sum_nil, if_true]
    omega
  | false =>
    simp only [isLeap, Bool.and_eq_false_iff, Bool.or_eq_false_iff, decide_eq_false_iff_not,
      Decidable.not_not] at leap
    simp only [monthLengths, List.sum_cons, List.sum_nil, Bool.false_eq_true, if_false]
    omega

theorem dayFromYear_mono {y z : Int} (le : y ≤ z) : dayFromYear y ≤ dayFromYear z := by
  unfold dayFromYear
  omega

theorem yearFromDay_bounds (day : Int) :
    dayFromYear (yearFromDay day) ≤ day ∧ day < dayFromYear (yearFromDay day + 1) := by
  unfold yearFromDay
  simp only
  split
  · rename_i after
    refine ⟨after, ?_⟩
    unfold dayFromYear at after ⊢
    omega
  · split
    · rename_i before
      rw [Int.sub_add_cancel]
      refine ⟨?_, before⟩
      unfold dayFromYear
      omega
    · rename_i notAfter notBefore
      exact ⟨Int.not_lt.mp notBefore, Int.not_le.mp notAfter⟩

/-- Days compare by year, then within the year. -/
theorem day_lt_iff {day other : Int} : day < other ↔ yearFromDay day < yearFromDay other ∨
    yearFromDay day = yearFromDay other ∧ dayInYear day < dayInYear other := by
  have here := yearFromDay_bounds day
  have there := yearFromDay_bounds other
  unfold dayInYear
  rcases Int.lt_trichotomy (yearFromDay day) (yearFromDay other) with less | same | greater
  · have apart := dayFromYear_mono (Int.add_one_le_of_lt less)
    refine iff_of_true ?_ (.inl less)
    omega
  · rw [same] at here ⊢
    omega
  · have apart := dayFromYear_mono (Int.add_one_le_of_lt greater)
    refine iff_of_false ?_ ?_
    · omega
    · omega

theorem yearFromDay_mono {day other : Int} (le : day ≤ other) :
    yearFromDay day ≤ yearFromDay other := by
  rcases Int.lt_or_eq_of_le le with earlier | rfl
  · rcases day_lt_iff.mp earlier with less | ⟨same, _⟩
    · exact less.le
    · exact same.le
  · exact le_rfl

theorem dayInYear_lt (day : Int) : dayInYear day < (monthLengthsOf day).sum := by
  have bounds := yearFromDay_bounds day
  have length := dayFromYear_succ (yearFromDay day)
  unfold dayInYear monthLengthsOf
  omega

theorem monthAndDay_lt_iff {lengths : List Nat} {d e : Nat} :
    d < e ↔ (monthAndDay lengths d).1 < (monthAndDay lengths e).1 ∨
      (monthAndDay lengths d).1 = (monthAndDay lengths e).1 ∧
        (monthAndDay lengths d).2 < (monthAndDay lengths e).2 := by
  induction lengths generalizing d e with
  | nil => simp [monthAndDay]
  | cons length lengths ih =>
    simp only [monthAndDay]
    by_cases hd : d < length
    · by_cases he : e < length
      · simp [hd, he]
      · simp only [if_pos hd, if_neg he]
        omega
    · by_cases he : e < length
      · simp only [if_neg hd, if_pos he]
        omega
      · simp only [if_neg hd, if_neg he, Nat.add_lt_add_iff_right, Nat.add_right_cancel_iff, ← ih]
        omega

theorem monthAndDay_bounds {lengths : List Nat} {d : Nat} (within : d < lengths.sum) :
    ∃ length, lengths[(monthAndDay lengths d).1]? = some length ∧
      (monthAndDay lengths d).2 < length := by
  induction lengths generalizing d with
  | nil => cases within
  | cons length lengths ih =>
    simp only [monthAndDay]
    by_cases first : d < length
    · rw [if_pos first]
      exact ⟨length, rfl, first⟩
    · rw [if_neg first]
      rw [List.sum_cons] at within
      obtain ⟨other, at_, less⟩ := ih (d := d - length) (by omega)
      exact ⟨other, at_, less⟩

theorem sum_monthAndDay (lengths : List Nat) (d : Nat) :
    (lengths.take (monthAndDay lengths d).1).sum + (monthAndDay lengths d).2 = d := by
  induction lengths generalizing d with
  | nil => simp [monthAndDay]
  | cons length lengths ih =>
    simp only [monthAndDay]
    by_cases first : d < length
    · simp [if_pos first]
    · have rest := ih (d - length)
      simp only [if_neg first, List.take_succ_cons, List.sum_cons]
      omega

theorem month_bounds (day : Int) : month day < 13 ∧ dayOfMonth day < 32 := by
  obtain ⟨length, at_, days⟩ := monthAndDay_bounds (dayInYear_lt day)
  obtain ⟨months, _⟩ := List.getElem?_eq_some_iff.mp at_
  have longest : ∀ leap, ∀ length ∈ monthLengths leap, length ≤ 31 := by decide
  have short : length ≤ 31 := longest _ length (List.mem_of_getElem? at_)
  exact ⟨Nat.succ_lt_succ months, Nat.succ_lt_succ (Nat.lt_of_lt_of_le days short)⟩

/-- The days since 1970-01-01, where the year has such a month and the month such a day. -/
def dayFromDate (y : Int) : Nat → Nat → Option Int
  | m + 1, d + 1 =>
    (monthLengths (isLeap y))[m]?.bind (fun length =>
      if d < length then some (dayFromYear y + ((monthLengths (isLeap y)).take m).sum + d)
      else none)
  | _, _ => none

theorem dayFromDate_self (day : Int) :
    dayFromDate (yearFromDay day) (month day) (dayOfMonth day) = some day := by
  obtain ⟨length, at_, less⟩ := monthAndDay_bounds (dayInYear_lt day)
  have days := sum_monthAndDay (monthLengthsOf day) (dayInYear day)
  have start := (yearFromDay_bounds day).1
  rw [monthLengthsOf] at at_ less days
  rw [month, dayOfMonth, monthLengthsOf, dayFromDate, at_, Option.bind_some, if_pos less,
    Option.some.injEq]
  unfold dayInYear at days ⊢
  omega

/-- Within one year days compare by month, then within the month. -/
theorem dayInYear_lt_iff {day other : Int} (same : yearFromDay day = yearFromDay other) :
    dayInYear day < dayInYear other ↔ month day < month other ∨
      month day = month other ∧ dayOfMonth day < dayOfMonth other := by
  have lengths : monthLengthsOf day = monthLengthsOf other := by
    rw [monthLengthsOf, same, monthLengthsOf]
  unfold month dayOfMonth
  rw [lengths, Nat.add_lt_add_iff_right, Nat.add_right_cancel_iff, Nat.add_lt_add_iff_right]
  exact monthAndDay_lt_iff

end Calendar
