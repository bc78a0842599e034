/-! Comparison of two words without leaving early: the differences of all places are gathered
into one accumulator, which is zero just where the words agree. -/

universe u

namespace ConstantTime

section
variable {α : Type u} [OrOp α] [OfNat α 0]

theorem foldl_or_eq_zero (or_eq_zero : ∀ x y : α, x ||| y = 0 ↔ x = 0 ∧ y = 0) {start : α}
    {xs : List α} : xs.foldl (fun diff x => diff ||| x) start = 0 ↔ start = 0 ∧ ∀ x ∈ xs, x = 0 := by
  induction xs generalizing start with
  | nil => simp
  | cons x xs ih => rw [List.foldl_cons, ih, or_eq_zero, List.forall_mem_cons, and_assoc]

variable [XorOp α]

/-- The loop over two words of one length. -/
def differences (xs ys : List α) : α :=
  (List.zipWith (fun x y => x ^^^ y) xs ys).foldl (fun diff x => diff ||| x) 0

theorem differences_eq_zero (or_eq_zero : ∀ x y : α, x ||| y = 0 ↔ x = 0 ∧ y = 0)
    (xor_eq_zero : ∀ x y : α, x ^^^ y = 0 ↔ x = y) {xs ys : List α}
    (length : xs.length = ys.length) : differences xs ys = 0 ↔ xs = ys := by
  have zipped : (∀ d ∈ List.zipWith (fun x y => x ^^^ y) xs ys, d = 0) ↔ xs = ys := by
    induction xs generalizing ys with
    | nil =>
      cases List.length_eq_zero_iff.mp length.symm
      simp
    | cons x xs ih =>
      cases ys with
      | nil => cases length
      | cons y ys =>
        rw [List.zipWith_cons_cons, List.forall_mem_cons, xor_eq_zero,
          ih (Nat.succ.inj length), List.cons.injEq]
  rw [differences, foldl_or_eq_zero or_eq_zero, zipped]
  simp

end

end ConstantTime
