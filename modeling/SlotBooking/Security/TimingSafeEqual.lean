import SlotBooking.Http.Staff

/-! The comparers for secrets: the staff's compares encoded bytes, the domain's code units. The
encoder takes every lone surrogate for U+FFFD. -/
namespace SlotBooking

def isSurrogate (unit : UInt16) : Bool := isHighSurrogate unit || isLowSurrogate unit

def wellFormedUnit (unit : UInt16) : UInt16 := if isSurrogate unit then 0xfffd else unit

/-- `String.prototype.toWellFormed`. -/
def toWellFormed : JsString → JsString
  | [] => []
  | [a] => [wellFormedUnit a]
  | a :: b :: rest =>
    if isHighSurrogate a && isLowSurrogate b then a :: b :: toWellFormed rest
    else wellFormedUnit a :: toWellFormed (b :: rest)

/-- The code units of a character. -/
def utf16 (c : Char) : JsString :=
  if c.toNat < 0x10000 then [UInt16.ofNat c.toNat]
  else [UInt16.ofNat (0xd800 + (c.toNat - 0x10000) / 0x400),
    UInt16.ofNat (0xdc00 + (c.toNat - 0x10000) % 0x400)]

section
variable {a b : UInt16} {s t : JsString}

theorem isHighSurrogate_iff : isHighSurrogate a = true ↔ 0xd800 ≤ a.toNat ∧ a.toNat ≤ 0xdbff := by
  simp only [isHighSurrogate, Bool.and_eq_true, decide_eq_true_eq, UInt16.le_iff_toNat_le]
  exact Iff.rfl

theorem isLowSurrogate_iff : isLowSurrogate a = true ↔ 0xdc00 ≤ a.toNat ∧ a.toNat ≤ 0xdfff := by
  simp only [isLowSurrogate, Bool.and_eq_true, decide_eq_true_eq, UInt16.le_iff_toNat_le]
  exact Iff.rfl

theorem isSurrogate_iff : isSurrogate a = true ↔ 0xd800 ≤ a.toNat ∧ a.toNat ≤ 0xdfff := by
  rw [isSurrogate, Bool.or_eq_true, isHighSurrogate_iff, isLowSurrogate_iff]
  omega

theorem toNat_char {n : Nat} (valid : n < 0xd800 ∨ 0xdfff < n ∧ n < 0x110000) :
    (Char.ofNat n).toNat = n := by
  rw [Char.ofNat, dif_pos valid]
  rfl

/-! ### One character -/

theorem utf16_pair (high : isHighSurrogate a = true) (low : isLowSurrogate b = true) :
    utf16 (Char.ofNat (0x10000 + (a.toNat - 0xd800) * 0x400 + (b.toNat - 0xdc00))) = [a, b] := by
  have boundsA := isHighSurrogate_iff.mp high
  have boundsB := isLowSurrogate_iff.mp low
  have valid := @toNat_char (0x10000 + (a.toNat - 0xd800) * 0x400 + (b.toNat - 0xdc00))
    (.inr (by omega))
  have front : 0xd800 + (0x10000 + (a.toNat - 0xd800) * 0x400 + (b.toNat - 0xdc00) - 0x10000) /
      0x400 = a.toNat := by omega
  have back : 0xdc00 + (0x10000 + (a.toNat - 0xd800) * 0x400 + (b.toNat - 0xdc00) - 0x10000) %
      0x400 = b.toNat := by omega
  rw [utf16, valid, if_neg (by omega), front, back, UInt16.ofNat_toNat, UInt16.ofNat_toNat]

theorem utf16_scalarValue (a : UInt16) : utf16 (scalarValue a) = [wellFormedUnit a] := by
  by_cases surrogate : isSurrogate a = true
  · have lone : scalarValue a = Char.ofNat 0xfffd := if_pos surrogate
    rw [lone, wellFormedUnit, if_pos surrogate]
    decide
  · have plain : scalarValue a = Char.ofNat a.toNat := if_neg surrogate
    have bound := a.toNat_lt
    have valid := @toNat_char a.toNat (by
      rw [isSurrogate_iff] at surrogate
      omega)
    rw [plain, wellFormedUnit, if_neg surrogate, utf16, valid, if_pos bound, UInt16.ofNat_toNat]

theorem scalarValue_wellFormed (a : UInt16) : scalarValue (wellFormedUnit a) = scalarValue a := by
  by_cases surrogate : isSurrogate a = true
  · have lone : scalarValue a = Char.ofNat 0xfffd := if_pos surrogate
    rw [lone, wellFormedUnit, if_pos surrogate]
    decide
  · rw [wellFormedUnit, if_neg surrogate]

theorem wellFormedUnit_plain (a : UInt16) : isHighSurrogate (wellFormedUnit a) = false := by
  by_cases surrogate : isSurrogate a = true
  · rw [wellFormedUnit, if_pos surrogate]
    decide
  · rw [wellFormedUnit, if_neg surrogate]
    simp only [isSurrogate, Bool.or_eq_true, not_or, Bool.not_eq_true] at surrogate
    exact surrogate.1

/-! ### Texts -/

theorem scalarValues_cons (plain : isHighSurrogate a = false) (s : JsString) :
    scalarValues (a :: s) = scalarValue a :: scalarValues s := by
  cases s with
  | nil => rfl
  | cons b rest => simp [scalarValues, plain]

/-- The scalar values give back the text, but for lone surrogates. -/
theorem utf16_scalarValues (s : JsString) : (scalarValues s).flatMap utf16 = toWellFormed s := by
  induction s using toWellFormed.induct with
  | case1 => rfl
  | case2 a => simp [scalarValues, toWellFormed, utf16_scalarValue]
  | case3 a b rest pair ih =>
    simp only [Bool.and_eq_true] at pair
    simp [scalarValues, toWellFormed, pair, utf16_pair pair.1 pair.2, ih]
  | case4 a b rest single ih =>
    simp only [scalarValues, toWellFormed, single, if_false, Bool.false_eq_true, List.flatMap_cons,
      utf16_scalarValue, ih]
    rfl

theorem scalarValues_toWellFormed (s : JsString) :
    scalarValues (toWellFormed s) = scalarValues s := by
  induction s using toWellFormed.induct with
  | case1 => rfl
  | case2 a => simp [scalarValues, toWellFormed, scalarValue_wellFormed]
  | case3 a b rest pair ih =>
    simp only [Bool.and_eq_true] at pair
    simp [scalarValues, toWellFormed, pair, ih]
  | case4 a b rest single ih =>
    simp only [scalarValues, toWellFormed, single, if_false, Bool.false_eq_true]
    rw [scalarValues_cons (wellFormedUnit_plain a), scalarValue_wellFormed, ih]

theorem usvString_eq_iff : usvString s = usvString t ↔ toWellFormed s = toWellFormed t := by
  rw [usvString, usvString, String.ofList_inj]
  constructor
  · intro same
    rw [← utf16_scalarValues s, same, utf16_scalarValues]
  · intro same
    rw [← scalarValues_toWellFormed s, same, scalarValues_toWellFormed]

theorem toWellFormed_plain (plain : ∀ unit ∈ s, isSurrogate unit = false) : toWellFormed s = s := by
  induction s using toWellFormed.induct with
  | case1 => rfl
  | case2 a => simp [toWellFormed, wellFormedUnit, plain a List.mem_cons_self]
  | case3 a b rest pair ih =>
    simp only [Bool.and_eq_true] at pair
    have surrogate := plain a List.mem_cons_self
    simp [isSurrogate, pair] at surrogate
  | case4 a b rest single ih =>
    obtain ⟨first, others⟩ := List.forall_mem_cons.mp plain
    simp [toWellFormed, single, wellFormedUnit, first, ih others]

/-- A text which comes out without U+FFFD has gone in as it is. -/
theorem toWellFormed_eq (kept : 0xfffd ∉ toWellFormed s) : toWellFormed s = s := by
  have unit : ∀ a, (0xfffd : UInt16) ≠ wellFormedUnit a → wellFormedUnit a = a := by
    intro a other
    by_cases surrogate : isSurrogate a = true
    · rw [wellFormedUnit, if_pos surrogate] at other
      exact absurd rfl other
    · rw [wellFormedUnit, if_neg surrogate]
  induction s using toWellFormed.induct with
  | case1 => rfl
  | case2 a => simp only [toWellFormed, unit a (by simpa [toWellFormed] using kept)]
  | case3 a b rest pair ih => simp_all [toWellFormed]
  | case4 a b rest single ih =>
    simp only [toWellFormed, single, if_false, Bool.false_eq_true, List.mem_cons, not_or] at kept ⊢
    rw [unit a kept.1, ih kept.2]

end

/-- What both comparers are for, and that they are the same. -/
def ComparersAgree (a b : JsString) : Prop :=
  (timingSafeEqual a b = true ↔ a = b) ∧ timingSafeEqual a b = constantTimeStringEqual a b

/-- The staff's comparer compares strings, like the domain's, if and only if two different strings
do not become the same by their lone surrogates. -/
theorem comparers_agree_iff (a b : JsString) :
    ComparersAgree a b ↔ (toWellFormed a = toWellFormed b → a = b) := by
  have domain : timingSafeEqual a b = constantTimeStringEqual a b ↔
      (timingSafeEqual a b = true ↔ a = b) := by
    rw [Bool.eq_iff_iff, constantTimeStringEqual_iff]
  rw [ComparersAgree, domain, and_self, timingSafeEqual_iff, usvString_eq_iff]
  constructor
  · exact fun agree => agree.mp
  · intro apart
    refine ⟨apart, ?_⟩
    rintro rfl
    rfl

/-- A lone surrogate passes for U+FFFD. -/
theorem lone_surrogate_passes :
    timingSafeEqual [0xd800] [0xfffd] = true ∧ constantTimeStringEqual [0xd800] [0xfffd] = false ∧
      ¬ ComparersAgree [0xd800] [0xfffd] := by
  have passes : timingSafeEqual [0xd800] [0xfffd] = true := by decide
  exact ⟨passes, by decide, fun agree => absurd (agree.1.mp passes) (by decide)⟩

end SlotBooking
