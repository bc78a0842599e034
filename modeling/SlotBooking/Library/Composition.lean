import Mathlib.Data.List.Basic

/-! Texts that are taken apart unit by unit and composed again from the left: the unit that waits
takes the next one where the pair has a composite, and is final where it has none. -/

universe u

namespace Composition

variable {α : Type u} (composite : α → α → Option α)

/-- `a` waits for what follows it. -/
def composeFrom (a : α) : List α → List α
  | [] => [a]
  | b :: rest =>
    match composite a b with
    | some c => composeFrom c rest
    | none => a :: composeFrom b rest

def compose : List α → List α
  | [] => []
  | a :: rest => composeFrom composite a rest

/-- What is final after some more units, and the unit that waits then. -/
def settle (a : α) : List α → List α × α
  | [] => ([], a)
  | b :: rest =>
    match composite a b with
    | some c => settle c rest
    | none => (a :: (settle b rest).1, (settle b rest).2)

/-- How many neighbours satisfy a relation, in a text that follows `a`. -/
def countPairs (P : α → α → Bool) (a : α) : List α → Nat
  | [] => 0
  | b :: rest => (P a b).toNat + countPairs P b rest

variable {composite}

theorem composeFrom_some {a b c : α} (pair : composite a b = some c) (rest : List α) :
    composeFrom composite a (b :: rest) = composeFrom composite c rest := by
  simp [composeFrom, pair]

theorem composeFrom_none {a b : α} (pair : composite a b = none) (rest : List α) :
    composeFrom composite a (b :: rest) = a :: composeFrom composite b rest := by
  simp [composeFrom, pair]

theorem composeFrom_append (a : α) (xs ys : List α) : composeFrom composite a (xs ++ ys) =
    (settle composite a xs).1 ++ composeFrom composite (settle composite a xs).2 ys := by
  induction xs generalizing a with
  | nil => rfl
  | cons b rest ih =>
    cases pair : composite a b with
    | some c =>
      rw [List.cons_append, composeFrom_some pair, ih c]
      simp [settle, pair]
    | none =>
      rw [List.cons_append, composeFrom_none pair, ih b]
      simp [settle, pair]

end Composition
