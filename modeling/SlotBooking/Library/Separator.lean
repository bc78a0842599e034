import Mathlib.Data.List.Basic

/-! Texts cut at a separator. -/

universe u

namespace Separator

variable {α : Type u} [DecidableEq α] {c : α}

/-- Before and after the last separator; no value where there is none. -/
def splitLast (c : α) : List α → Option (List α × List α)
  | [] => none
  | a :: rest =>
    match splitLast c rest with
    | some (front, back) => some (a :: front, back)
    | none => if a = c then some ([], rest) else none

theorem splitLast_eq_none {xs : List α} : splitLast c xs = none ↔ c ∉ xs := by
  induction xs with
  | nil => simp [splitLast]
  | cons a rest ih =>
    rw [splitLast]
    cases found : splitLast c rest with
    | some parts =>
      have inside : c ∈ rest := by
        by_contra absent
        cases (ih.mpr absent).symm.trans found
      simp [inside]
    | none =>
      have absent : c ∉ rest := ih.mp found
      by_cases same : a = c
      · simp [same]
      · simp [same, absent, Ne.symm same]

theorem splitLast_append {back : List α} (absent : c ∉ back) (front : List α) :
    splitLast c (front ++ c :: back) = some (front, back) := by
  induction front with
  | nil => simp [splitLast, splitLast_eq_none.mpr absent]
  | cons a front ih => simp [splitLast, ih]

/-- What follows the last separator tells two texts apart. -/
theorem append_inj {front front' back back' : List α} (absent : c ∉ back) (absent' : c ∉ back')
    (same : front ++ c :: back = front' ++ c :: back') : front = front' ∧ back = back' := by
  have split := splitLast_append absent front
  rw [same, splitLast_append absent' front'] at split
  cases split
  exact ⟨rfl, rfl⟩

/-- The first piece of a text goes up to its first separator. -/
theorem head?_splitOn (xs : List α) : (xs.splitOn c).head? = some (xs.takeWhile (· ≠ c)) := by
  induction xs with
  | nil => rfl
  | cons a rest ih =>
    rw [List.splitOn_cons_eq_if_modifyHead]
    by_cases same : a = c
    · simp [same]
    · rw [List.head?_eq_some_iff] at ih
      obtain ⟨pieces, first⟩ := ih
      simp [same, first]

end Separator
