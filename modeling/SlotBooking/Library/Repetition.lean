import Mathlib.Data.List.Destutter

/-! Repetitions in a list of which only those next to each other are dropped. -/

universe u

namespace Repetition

variable {α : Type u}

/-- Nothing comes back after something else. -/
def Contiguous (xs : List α) : Prop := ∀ x y, [x, y, x].Sublist xs → y = x

theorem contiguous_cons_self {a : α} {xs : List α} :
    Contiguous (a :: a :: xs) ↔ Contiguous (a :: xs) := by
  constructor
  · exact fun contiguous x y sub => contiguous x y (sub.cons a)
  · intro contiguous x y sub
    rcases List.sublist_cons_iff.mp sub with inner | ⟨rest, same, inner⟩
    · exact contiguous x y inner
    · cases same
      -- the first of the three may be taken from either of the two
      rcases List.sublist_cons_iff.mp inner with later | ⟨rest, same, _⟩
      · exact contiguous a y (later.cons_cons a)
      · cases same
        rfl

theorem contiguous_cons_ne {a b : α} {xs : List α} (other : a ≠ b) :
    Contiguous (a :: b :: xs) ↔ a ∉ b :: xs ∧ Contiguous (b :: xs) := by
  constructor
  · intro contiguous
    refine ⟨fun mem => ?_, fun x y sub => contiguous x y (sub.cons a)⟩
    have later : a ∈ xs := (List.mem_cons.mp mem).resolve_left other
    exact other (contiguous a b (((List.singleton_sublist.mpr later).cons_cons b).cons_cons a)).symm
  · rintro ⟨absent, contiguous⟩ x y sub
    rcases List.sublist_cons_iff.mp sub with inner | ⟨rest, same, inner⟩
    · exact contiguous x y inner
    · cases same
      exact absurd (inner.subset (by simp)) absent

variable [DecidableEq α]

theorem mem_destutter' {a x : α} {xs : List α} :
    x ∈ xs.destutter' (· ≠ ·) a ↔ x = a ∨ x ∈ xs := by
  induction xs generalizing a with
  | nil => simp
  | cons b xs ih =>
    by_cases same : a = b
    · subst same
      rw [List.destutter'_cons_neg _ (by simp), ih]
      simp
    · rw [List.destutter'_cons_pos _ same, List.mem_cons, ih, List.mem_cons]

/-- Nothing is lost. -/
theorem mem_destutter {x : α} {xs : List α} : x ∈ xs.destutter (· ≠ ·) ↔ x ∈ xs := by
  cases xs with
  | nil => simp
  | cons a xs => rw [List.destutter_cons', mem_destutter', List.mem_cons]

theorem nodup_destutter'_iff {a : α} {xs : List α} :
    (xs.destutter' (· ≠ ·) a).Nodup ↔ Contiguous (a :: xs) := by
  induction xs generalizing a with
  | nil =>
    refine iff_of_true (by simp) (fun x y sub => ?_)
    have short := sub.length_le
    simp at short
  | cons b xs ih =>
    by_cases same : a = b
    · subst same
      rw [List.destutter'_cons_neg _ (by simp), ih, contiguous_cons_self]
    · rw [List.destutter'_cons_pos _ same, List.nodup_cons, mem_destutter', ih,
        contiguous_cons_ne same, List.mem_cons]

/-- What is left has no repetition just where equal elements stand together. -/
theorem nodup_destutter_iff {xs : List α} : (xs.destutter (· ≠ ·)).Nodup ↔ Contiguous xs := by
  cases xs with
  | nil =>
    refine iff_of_true (by simp) (fun x y sub => ?_)
    have short := sub.length_le
    simp at short
  | cons a xs => rw [List.destutter_cons', nodup_destutter'_iff]

end Repetition
