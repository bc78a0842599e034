import Mathlib.Data.List.Forall2

/-! Lists which are related element by element, and the traversals of a list which may fail. -/

universe u v w

namespace Traversal

section
variable {α : Type u} {β : Type v} {R : α → β → Prop} {xs : List α} {ys : List β}

theorem exists_right (related : List.Forall₂ R xs ys) {x : α} (mem : x ∈ xs) :
    ∃ y ∈ ys, R x y := by
  induction related with
  | nil => cases mem
  | cons here _ ih =>
    rcases List.mem_cons.mp mem with rfl | mem
    · exact ⟨_, List.mem_cons_self, here⟩
    · obtain ⟨y, later, same⟩ := ih mem
      exact ⟨y, List.mem_cons_of_mem _ later, same⟩

theorem exists_left (related : List.Forall₂ R xs ys) {y : β} (mem : y ∈ ys) :
    ∃ x ∈ xs, R x y :=
  exists_right (R := fun y x => R x y) related.flip mem

theorem exists_related (total : ∀ x ∈ xs, ∃ y, R x y) : ∃ ys, List.Forall₂ R xs ys := by
  induction xs with
  | nil => exact ⟨[], .nil⟩
  | cons x xs ih =>
    obtain ⟨⟨y, here⟩, later⟩ := List.forall_mem_cons.mp total
    obtain ⟨ys, rest⟩ := ih later
    exact ⟨y :: ys, .cons here rest⟩

end

section
variable {α : Type u} {β : Type v} {f : α → Option β} {xs : List α} {ys : List β}

theorem mapM_eq_some_iff : xs.mapM f = some ys ↔ List.Forall₂ (fun x y => f x = some y) xs ys := by
  induction xs generalizing ys with
  | nil => simp [eq_comm]
  | cons x xs ih =>
    rw [List.mapM_cons, List.forall₂_cons_left_iff]
    simp only [bind, pure, Option.bind_eq_some_iff, Option.some.injEq, ih]
    constructor
    · rintro ⟨y, here, rest, later, rfl⟩
      exact ⟨y, rest, here, later, rfl⟩
    · rintro ⟨y, rest, here, later, rfl⟩
      exact ⟨y, here, rest, later, rfl⟩

theorem mem_of_mapM (mapped : xs.mapM f = some ys) {y : β} (mem : y ∈ ys) :
    ∃ x ∈ xs, f x = some y := exists_left (mapM_eq_some_iff.mp mapped) mem

theorem mapM_of_mem (mapped : xs.mapM f = some ys) {x : α} (mem : x ∈ xs) :
    ∃ y ∈ ys, f x = some y := exists_right (mapM_eq_some_iff.mp mapped) mem

theorem mapM_total {g : α → β} (total : ∀ x ∈ xs, f x = some (g x)) :
    xs.mapM f = some (xs.map g) := by
  rw [mapM_eq_some_iff, List.forall₂_map_right_iff, List.forall₂_same]
  exact total

theorem mapM_some (total : ∀ x ∈ xs, ∃ y, f x = some y) : ∃ ys, xs.mapM f = some ys := by
  obtain ⟨ys, related⟩ := exists_related total
  exact ⟨ys, mapM_eq_some_iff.mpr related⟩

theorem keys_of_mapM {γ : Type w} {key : β → γ} {k : α → γ} (mapped : xs.mapM f = some ys)
    (keyed : ∀ x y, f x = some y → key y = k x) : ys.map key = xs.map k := by
  induction mapM_eq_some_iff.mp mapped with
  | nil => rfl
  | cons here rest ih =>
    rw [List.map_cons, List.map_cons, keyed _ _ here, ih (mapM_eq_some_iff.mpr rest)]

end

end Traversal
