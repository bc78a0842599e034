import Mathlib.Algebra.Order.Ring.Nat
import Mathlib.Data.List.Basic
import Mathlib.Order.Nat

/-! Decimal numbers as texts, and the order of texts. Texts compare by their first character
that differs, so renderings of a fixed width compare as what they render, whatever follows. -/

universe u v w

namespace Decimal

/-- In front of any two texts the renderings decide as their values do. -/
def Ordered {α : Type u} [LT α] (P : α → Prop) (f : α → List Char) : Prop :=
  ∀ a b, P a → P b → ∀ x y : List Char, f a ++ x < f b ++ y ↔ a < b ∨ a = b ∧ x < y

/-- The last `width` digits, most significant first. -/
def digits : Nat → Nat → List Char
  | 0, _ => []
  | width + 1, n => digits width (n / 10) ++ [Nat.digitChar (n % 10)]

/-- The same without trailing zeros. -/
def trimmed : Nat → Nat → List Char
  | 0, _ => []
  | width + 1, n => if n % 10 = 0 then trimmed width (n / 10) else digits (width + 1) n

theorem length_digits (width n : Nat) : (digits width n).length = width := by
  induction width generalizing n with
  | zero => rfl
  | succ width ih => rw [digits, List.length_append, ih, List.length_singleton]

theorem append_lt_append_iff {front x y : List Char} : front ++ x < front ++ y ↔ x < y := by
  induction front with
  | nil => rfl
  | cons c front ih => rw [List.cons_append, List.cons_append, List.cons_lt_cons_self, ih]

theorem digitChar_lt {a b : Nat} (ha : a < 10) (hb : b < 10) :
    Nat.digitChar a < Nat.digitChar b ↔ a < b := by
  have all : ∀ a < 10, ∀ b < 10, (Nat.digitChar a < Nat.digitChar b ↔ a < b) := by decide
  exact all a ha b hb

section
variable {α : Type u} [Preorder α] {P : α → Prop} {f : α → List Char}

theorem Ordered.weaken {Q : α → Prop} (ordered : Ordered P f) (weaker : ∀ a, Q a → P a) :
    Ordered Q f :=
  fun a b ha hb => ordered a b (weaker a ha) (weaker b hb)

theorem Ordered.cons (ordered : Ordered P f) (c : Char) : Ordered P (fun a => c :: f a) := by
  intro a b ha hb x y
  rw [List.cons_append, List.cons_append, List.cons_lt_cons_self]
  exact ordered a b ha hb x y

/-- A value rendered by two parts, of which the first decides before the second. -/
theorem Ordered.pair {β : Type v} [Preorder β] {γ : Type w} [LinearOrder γ] {Q : β → Prop}
    {R : γ → Prop} {g : β → List Char} {φ : γ → α} {ψ : γ → β} (first : Ordered P f)
    (second : Ordered Q g) (inFirst : ∀ c, R c → P (φ c)) (inSecond : ∀ c, R c → Q (ψ c))
    (less : ∀ c d, R c → R d → (c < d ↔ φ c < φ d ∨ φ c = φ d ∧ ψ c < ψ d)) :
    Ordered R (fun c => f (φ c) ++ g (ψ c)) := by
  intro c d hc hd x y
  have same : c = d ↔ φ c = φ d ∧ ψ c = ψ d := by
    constructor
    · rintro rfl
      exact ⟨rfl, rfl⟩
    · rintro ⟨firsts, seconds⟩
      have notLess : ¬ c < d := by simp [less c d hc hd, firsts, seconds]
      have notGreater : ¬ d < c := by simp [less d c hd hc, firsts, seconds]
      exact le_antisymm (not_lt.mp notGreater) (not_lt.mp notLess)
  rw [List.append_assoc, List.append_assoc, first _ _ (inFirst c hc) (inFirst d hd),
    second _ _ (inSecond c hc) (inSecond d hd), less c d hc hd, same, and_or_left, or_assoc,
    and_assoc]

end

/-- A number by quotient and remainder. -/
theorem Ordered.divMod {Q R : Nat → Prop} {f g : Nat → List Char} (m : Nat) (first : Ordered Q f)
    (second : Ordered (· < m) g) (pos : 0 < m) (inFirst : ∀ n, R n → Q (n / m)) :
    Ordered R (fun n => f (n / m) ++ g (n % m)) := by
  refine first.pair second inFirst (fun n _ => Nat.mod_lt n pos) ?_
  intro a b _ _
  have ha := Nat.div_add_mod a m
  have hb := Nat.div_add_mod b m
  constructor
  · intro less
    rcases Nat.lt_or_ge (a / m) (b / m) with quotient | quotient
    · exact .inl quotient
    · have same : a / m = b / m :=
        Nat.le_antisymm (Nat.div_le_div_right (Nat.le_of_lt less)) quotient
      refine .inr ⟨same, ?_⟩
      rw [same] at ha
      omega
  · rintro (quotient | ⟨quotient, remainder⟩)
    · exact Nat.lt_of_not_le (fun le => Nat.not_le_of_lt quotient (Nat.div_le_div_right le))
    · rw [quotient] at ha
      omega

theorem ordered_nil : Ordered (· < 1) (fun _ : Nat => []) := by
  intro a b ha hb x y
  obtain rfl : a = 0 := by omega
  obtain rfl : b = 0 := by omega
  simp

theorem ordered_digit : Ordered (· < 10) (fun n => [Nat.digitChar n]) := by
  intro a b ha hb x y
  rw [List.singleton_append, List.singleton_append, List.cons_lt_cons_iff, digitChar_lt ha hb]
  have all : ∀ a < 10, ∀ b < 10, (Nat.digitChar a = Nat.digitChar b ↔ a = b) := by decide
  rw [all a ha b hb]

theorem ordered_digits (width : Nat) : Ordered (· < 10 ^ width) (digits width) := by
  induction width with
  | zero => exact ordered_nil
  | succ width ih =>
    refine Ordered.divMod 10 ih ordered_digit (by decide) ?_
    intro n bound
    rw [Nat.pow_succ] at bound
    exact Nat.div_lt_of_lt_mul (by rwa [Nat.mul_comm])

/-! ### Trailing zeros -/

theorem digits_add (width k n : Nat) :
    digits (width + k) n = digits width (n / 10 ^ k) ++ digits k n := by
  induction k generalizing n with
  | zero => simp [digits]
  | succ k ih =>
    rw [← Nat.add_assoc, digits, digits, ih, List.append_assoc, Nat.div_div_eq_div_mul,
      ← Nat.pow_succ']

theorem digits_head (width n : Nat) :
    ∃ d tail, d < 10 ∧ digits (width + 1) n = Nat.digitChar d :: tail := by
  induction width generalizing n with
  | zero => exact ⟨n % 10, [], Nat.mod_lt n (by decide), rfl⟩
  | succ width ih =>
    obtain ⟨d, tail, small, split⟩ := ih (n / 10)
    refine ⟨d, tail ++ [Nat.digitChar (n % 10)], small, ?_⟩
    rw [digits, split, List.cons_append]

/-- Where the last `k` digits are not all zero, what comes before them stays whole. -/
theorem trimmed_add (width : Nat) {k n : Nat} (nonzero : n % 10 ^ k ≠ 0) :
    ∃ d tail, d < 10 ∧
      trimmed (width + k) n = digits width (n / 10 ^ k) ++ Nat.digitChar d :: tail := by
  induction k generalizing n with
  | zero => exact absurd (Nat.mod_one n) nonzero
  | succ k ih =>
    rw [← Nat.add_assoc, trimmed]
    split
    · rename_i zero
      have rest : n / 10 % 10 ^ k ≠ 0 := by
        intro rest
        rw [Nat.pow_succ', Nat.mod_mul, zero, rest] at nonzero
        exact nonzero rfl
      obtain ⟨d, tail, small, split⟩ := ih rest
      refine ⟨d, tail, small, ?_⟩
      rw [split, Nat.div_div_eq_div_mul, ← Nat.pow_succ']
    · obtain ⟨d, tail, small, split⟩ := digits_head k n
      refine ⟨d, tail, small, ?_⟩
      rw [Nat.add_assoc, digits_add, split]

theorem trimmed_add_of_zeros (width : Nat) {k n : Nat} (zeros : n % 10 ^ k = 0) :
    trimmed (width + k) n = trimmed width (n / 10 ^ k) := by
  induction k generalizing n with
  | zero => rw [Nat.add_zero, Nat.pow_zero, Nat.div_one]
  | succ k ih =>
    rw [Nat.pow_succ', Nat.mod_mul] at zeros
    have last : n % 10 = 0 := by omega
    have rest : n / 10 % 10 ^ k = 0 := by omega
    rw [← Nat.add_assoc, trimmed, if_pos last, ih rest, Nat.div_div_eq_div_mul, ← Nat.pow_succ']

/-- The digits kept, and the number `j` of those dropped. -/
theorem trimmed_eq_digits (width n : Nat) : ∃ kept j, kept + j = width ∧ n % 10 ^ j = 0 ∧
    (kept = 0 ∨ n / 10 ^ j % 10 ≠ 0) ∧ trimmed width n = digits kept (n / 10 ^ j) := by
  induction width generalizing n with
  | zero => exact ⟨0, 0, rfl, Nat.mod_one n, .inl rfl, rfl⟩
  | succ width ih =>
    rw [trimmed]
    split
    · rename_i zero
      obtain ⟨kept, j, whole, rest, last, split⟩ := ih (n / 10)
      rw [Nat.div_div_eq_div_mul, ← Nat.pow_succ'] at last split
      refine ⟨kept, j + 1, by omega, ?_, last, split⟩
      rw [Nat.pow_succ', Nat.mod_mul, zero, rest]
    · rename_i nonzero
      refine ⟨width + 1, 0, rfl, Nat.mod_one n, .inr ?_, ?_⟩
      · rwa [Nat.pow_zero, Nat.div_one]
      · rw [Nat.pow_zero, Nat.div_one]

section
variable {c : Char} (beyond : ∀ d < 10, Nat.digitChar d < c)
include beyond

/-- Digits in front of the mark `c` compare with those of a longer text only as far as they go. -/
theorem trimmed_lt_digits (width : Nat) {n m : Nat} (hn : n < 10 ^ width) (hm : m < 10 ^ width) :
    ∃ j ≤ width, n % 10 ^ j = 0 ∧ (j = width ∨ n / 10 ^ j % 10 ≠ 0) ∧
      (trimmed width n ++ [c] < digits width m ++ [c] ↔ n / 10 ^ j < m / 10 ^ j) := by
  obtain ⟨kept, j, whole, rest, last, split⟩ := trimmed_eq_digits width n
  subst whole
  have shorter : ∀ i < 10 ^ (kept + j), i / 10 ^ j < 10 ^ kept := by
    intro i bound
    rw [Nat.add_comm, Nat.pow_add] at bound
    exact Nat.div_lt_of_lt_mul bound
  refine ⟨j, Nat.le_add_left j kept, rest, last.imp (fun none_ => by omega) id, ?_⟩
  rw [split, digits_add, List.append_assoc,
    ordered_digits kept _ _ (shorter n hn) (shorter m hm)]
  refine or_iff_left (fun equal => ?_)
  cases j with
  | zero => exact List.lt_irrefl _ equal.2
  | succ j =>
    obtain ⟨d, tail, small, head⟩ := digits_head j m
    rw [head, List.cons_append, List.cons_lt_cons_iff] at equal
    rcases equal.2 with less | ⟨same, _⟩
    · exact Char.lt_asymm less (beyond d small)
    · exact Char.lt_irrefl _ (same ▸ beyond d small)

/-- Digits after the ones compared make a text smaller than the mark does. -/
theorem trimmed_add_lt_digits (width : Nat) {k n m : Nat} (hn : n < 10 ^ (width + k))
    (hm : m < 10 ^ width) (nonzero : n % 10 ^ k ≠ 0) :
    trimmed (width + k) n ++ [c] < digits width m ++ [c] ↔ n / 10 ^ k ≤ m := by
  obtain ⟨d, tail, small, split⟩ := trimmed_add width nonzero
  have shorter : n / 10 ^ k < 10 ^ width := by
    rw [Nat.add_comm, Nat.pow_add] at hn
    exact Nat.div_lt_of_lt_mul hn
  have less : Nat.digitChar d :: tail ++ [c] < [c] :=
    List.cons_lt_cons_iff.mpr (.inl (beyond d small))
  rw [split, List.append_assoc, ordered_digits width _ _ shorter hm, Nat.le_iff_lt_or_eq]
  exact or_congr_right (and_iff_left less)

end

/-! ### Reading -/

/-- Reads `width` digits, after those which make `acc`. -/
def read : Nat → Nat → List Char → Option (Nat × List Char)
  | 0, acc, cs => some (acc, cs)
  | width + 1, acc, c :: cs =>
    if c.isDigit then read width (10 * acc + (c.toNat - '0'.toNat)) cs else none
  | _ + 1, _, [] => none

/-- Reads the digits there are, up to `width` of them; those missing at the end are zeros. -/
def readTrimmed : Nat → Nat → List Char → Nat × List Char
  | 0, acc, cs => (acc, cs)
  | width + 1, acc, c :: cs =>
    if c.isDigit then readTrimmed width (10 * acc + (c.toNat - '0'.toNat)) cs
    else (acc * 10 ^ (width + 1), c :: cs)
  | width + 1, acc, [] => (acc * 10 ^ (width + 1), [])

/-- `padStart(width, "0")` of a decimal number. -/
def padStart (width n : Nat) : List Char :=
  List.replicate (width - (Nat.toDigits 10 n).length) '0' ++ Nat.toDigits 10 n

theorem digitChar_read {d : Nat} (small : d < 10) : (Nat.digitChar d).isDigit = true ∧
    (Nat.digitChar d).toNat - '0'.toNat = d := by
  have all : ∀ d < 10, (Nat.digitChar d).isDigit = true ∧
      (Nat.digitChar d).toNat - '0'.toNat = d := by decide
  exact all d small

theorem accumulated (width acc n : Nat) :
    10 * (acc * 10 ^ width + n / 10 % 10 ^ width) + n % 10 =
      acc * 10 ^ (width + 1) + n % 10 ^ (width + 1) := by
  rw [Nat.pow_succ', Nat.mod_mul, Nat.mul_left_comm acc]
  omega

/-- Digits in front of a text are read one after the other. -/
theorem read_digits (width k acc n : Nat) (cs : List Char) :
    read (width + k) acc (digits width n ++ cs) =
      read k (acc * 10 ^ width + n % 10 ^ width) cs := by
  induction width generalizing k n cs with
  | zero => simp [digits, Nat.mod_one]
  | succ width ih =>
    obtain ⟨isDigit, value⟩ := digitChar_read (Nat.mod_lt n (by decide : 0 < 10))
    rw [digits, List.append_assoc, Nat.add_assoc, ih, Nat.add_comm 1 k, List.singleton_append, read,
      if_pos isDigit, value, accumulated]

theorem read_digits_self {width n : Nat} (bound : n < 10 ^ width) (cs : List Char) :
    read width 0 (digits width n ++ cs) = some (n, cs) := by
  have all := read_digits width 0 0 n cs
  rwa [Nat.zero_mul, Nat.zero_add, Nat.mod_eq_of_lt bound, Nat.add_zero] at all

/-- A number which is not too long for the padding is padded to exactly its width. -/
theorem padStart_eq_digits {width n : Nat} (bound : n < 10 ^ (width + 1)) :
    padStart (width + 1) n = digits (width + 1) n := by
  induction width generalizing n with
  | zero =>
    have small : n < 10 := bound
    simp [padStart, digits, Nat.toDigits_of_lt_base small, Nat.mod_eq_of_lt small]
  | succ width ih =>
    have shorter : n / 10 < 10 ^ (width + 1) := by
      rw [Nat.pow_succ'] at bound
      exact Nat.div_lt_of_lt_mul bound
    rw [digits, ← ih shorter]
    by_cases small : n < 10
    · rw [padStart, padStart, Nat.toDigits_of_lt_base small, Nat.div_eq_of_lt small,
        Nat.toDigits_zero, Nat.mod_eq_of_lt small]
      simp [List.replicate_succ']
    · have long := Nat.toDigits_of_base_le (b := 10) (by decide) (Nat.not_lt.mp small)
      rw [padStart, padStart, long, List.length_append, List.length_singleton,
        Nat.add_sub_add_right, List.append_assoc]

/-- Counts are told apart by their plain decimal text. -/
theorem toString_injective {n m : Nat} (same : toString n = toString m) : n = m := by
  have digits := congrArg String.toList same
  rw [Nat.toString_eq_repr, Nat.toString_eq_repr, Nat.toList_repr, Nat.toList_repr] at digits
  rw [← @Nat.ofDigitChars_ten_toDigits n, digits, Nat.ofDigitChars_ten_toDigits]

end Decimal
