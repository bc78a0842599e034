import SlotBooking.Shop.Cutoffs

/-! How far off the queries of the alarm can be. In the years of four digits a text which breaks
off makes a row wait for a second at most, and one which goes on lets it in by less than a
millisecond. -/
namespace SlotBooking

/-- In a year which is written with four digits. -/
def FourDigits (second : Int) : Prop := 0 ≤ yearOfSecond second ∧ yearOfSecond second ≤ 9999

instance (second : Int) : Decidable (FourDigits second) := inferInstanceAs (Decidable (_ ∧ _))

theorem yearOfSecond_mono {a b : Int} (le : a ≤ b) : yearOfSecond a ≤ yearOfSecond b :=
  Calendar.yearFromDay_mono (Int.ediv_le_ediv (by decide) le)

theorem isDate_of_fourDigits {ms : Int} (plain : FourDigits (ms / 1000)) : isDate ms = true := by
  have first : yearOfSecond (-8640000000000000 / 1000) < 0 := by decide
  have last : 9999 < yearOfSecond (8640000000000000 / 1000) := by decide
  rw [isDate, Bool.and_eq_true, decide_eq_true_eq, decide_eq_true_eq]
  constructor
  · by_contra low
    have year := @yearOfSecond_mono (ms / 1000) (-8640000000000000 / 1000) (by omega)
    have nonneg := plain.1
    omega
  · by_contra high
    have year := @yearOfSecond_mono (8640000000000000 / 1000) (ms / 1000) (by omega)
    have le := plain.2
    omega

section
variable {t : Instant} {ms : Int}

theorem second_le_of_before (before : t.before ms = true) : t.second ≤ ms / 1000 := by
  rcases before_iff.mp before with less | same
  · exact less.le
  · exact same.1.le

/-- Up to a second before the cutoff the two texts may agree so far; earlier than that they differ
in the second. -/
theorem textBefore_of_late (plain : FourDigits (ms / 1000))
    (late : t.epochNs + 999 * nsPerMs < ms * nsPerMs) : t.textBefore ms = true := by
  have before : t.before ms = true := by
    rw [Instant.before, decide_eq_true_iff]
    unfold nsPerMs at late ⊢
    omega
  have year := yearOfSecond_mono (second_le_of_before before)
  rw [(textBefore_agrees_iff t ms (isDate_of_fourDigits plain)).mpr, before]
  refine ⟨iff_of_true (year.trans plain.2) plain.2, fun negative => ?_, fun same => ?_⟩
  · exact absurd negative.2 (Int.not_lt.mpr plain.1)
  · exfalso
    unfold Instant.second nsPerSecond at same
    unfold nsPerMs at late
    omega

/-- A row which is let in is past the cutoff by less than a millisecond. -/
theorem early_of_textBefore (own : FourDigits t.second) (plain : FourDigits (ms / 1000))
    (text : t.textBefore ms = true) : t.epochNs < ms * nsPerMs + nsPerMs := by
  by_contra past
  have late : ¬ t.before ms = true := by
    rw [Instant.before, decide_eq_true_iff]
    unfold nsPerMs at past ⊢
    omega
  have misaligned : ¬ t.Aligned ms := by
    intro aligned
    rw [(textBefore_agrees_iff t ms (isDate_of_fourDigits plain)).mpr aligned] at text
    exact late text
  apply misaligned
  refine ⟨iff_of_true own.2 plain.2, fun negative => ?_, fun same => ⟨?_, ?_⟩⟩
  · exact absurd negative.2 (Int.not_lt.mpr plain.1)
  · exact fun breaksOff => late (before_iff.mpr (.inr ⟨same, breaksOff.1⟩))
  · rintro ⟨agrees, _⟩
    unfold Instant.subsecond nsPerSecond at agrees
    unfold Instant.second nsPerSecond at same
    unfold nsPerMs at past
    omega

end

/-- The least tolerances, in nanoseconds, under which the comparison of the texts stands for the
comparison of the times. -/
theorem text_tolerance_iff (late early : Int) :
    (∀ (t : Instant) (ms : Int), FourDigits t.second → FourDigits (ms / 1000) →
      (t.epochNs + late < ms * nsPerMs → t.textBefore ms = true) ∧
        (t.textBefore ms = true → t.epochNs < ms * nsPerMs + early)) ↔
      999 * nsPerMs ≤ late ∧ nsPerMs ≤ early := by
  constructor
  · intro tolerated
    constructor
    · -- on the full second, 999 milliseconds before the cutoff
      by_contra less
      have passedOver : Instant.textBefore ⟨0, by decide⟩ 999 = false := by decide
      have chosen := (tolerated ⟨0, by decide⟩ 999 (by decide) (by decide)).1
        (by change (0 : Int) + late < 999 * nsPerMs; omega)
      cases passedOver.symm.trans chosen
    · -- the last nanosecond of the cutoff's own millisecond
      have chosen : Instant.textBefore ⟨999999, by decide⟩ 0 = true := by decide
      have bound := (tolerated ⟨999999, by decide⟩ 0 (by decide) (by decide)).2 chosen
      change (999999 : Int) < 0 * nsPerMs + early at bound
      unfold nsPerMs at bound ⊢
      omega
  · rintro ⟨lateEnough, earlyEnough⟩ t ms own plain
    constructor
    · intro before
      exact textBefore_of_late plain (by omega)
    · intro text
      have bound := early_of_textBefore own plain text
      omega

end SlotBooking
