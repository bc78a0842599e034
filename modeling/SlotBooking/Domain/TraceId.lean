import Mathlib.Data.Nat.Digits.Defs
import SlotBooking.Http.Requests

/-! Trace ids: 128 bits as 32 hexadecimal digits in the traces, and as 26 digits of Crockford's
base 32 in the logs. -/
namespace SlotBooking

/-! ### Digits -/

def crockford : JsString := jsString "0123456789ABCDEFGHJKMNPQRSTVWXYZ"

/-- `[0-9A-HJKMNP-TV-Z]` -/
def isTraceIdUnit (unit : UInt16) : Bool :=
  isDigit unit || (0x41 ≤ unit && unit ≤ 0x48) || unit == 0x4a || unit == 0x4b || unit == 0x4d ||
    unit == 0x4e || (0x50 ≤ unit && unit ≤ 0x54) || (0x56 ≤ unit && unit ≤ 0x5a)

/-- `TraceIdSchema`. -/
def isTraceId (s : JsString) : Bool := s.length == 26 && s.all isTraceIdUnit

/-- `[0-9a-f]`, in either case. -/
def isHexUnit (unit : UInt16) : Bool :=
  isDigit unit || (0x61 ≤ unit && unit ≤ 0x66) || (0x41 ≤ unit && unit ≤ 0x46)

def hexDigit (unit : UInt16) : Nat :=
  if isDigit unit then unit.toNat - 0x30
  else if 0x61 ≤ unit then unit.toNat - 0x61 + 10
  else unit.toNat - 0x41 + 10

/-- The number of a text of digits, the most significant first. -/
def numberOf (base : Nat) (digit : UInt16 → Nat) (s : JsString) : Nat :=
  Nat.ofDigits base (s.map digit).reverse

/-- `BigInt` of hexadecimal digits behind `0x`. -/
def hexNumber (hex : JsString) : Nat := numberOf 16 hexDigit hex

def crockfordNumber (s : JsString) : Nat := numberOf 32 (fun unit => crockford.idxOf unit) s

/-! ### The change of base -/

def charAt (s : JsString) (i : Nat) : JsString := s[i]?.toList

def crockfordLoop : Nat → Nat → JsString → JsString
  | 0, _, out => out
  | i + 1, n, out => crockfordLoop i (n >>> 5) (charAt crockford (n &&& 31) ++ out)

/-- No value for what is not a trace id, and for the zeros of a span that is not recorded. -/
def traceIdFromHex (hex : JsString) : Option JsString :=
  if !(hex.length == 32 && hex.all isHexUnit) || (hex ≠ [] && hex.all (· == 0x30)) then none
  else some (crockfordLoop 26 (hexNumber hex) [])

section
variable {base : Nat} {digit : UInt16 → Nat} {s out : JsString}

theorem numberOf_cons (unit : UInt16) :
    numberOf base digit (unit :: s) = numberOf base digit s + base ^ s.length * digit unit := by
  simp [numberOf, Nat.ofDigits_append]

theorem numberOf_lt (large : 1 < base) (small : ∀ unit ∈ s, digit unit < base) :
    numberOf base digit s < base ^ s.length := by
  have bound : ∀ d ∈ (s.map digit).reverse, d < base := by simpa using small
  simpa [numberOf] using Nat.ofDigits_lt_base_pow_length large bound

theorem hexDigit_lt {unit : UInt16} (hex : isHexUnit unit = true) : hexDigit unit < 16 := by
  simp only [isHexUnit, isDigit, Bool.or_eq_true, Bool.and_eq_true, decide_eq_true_eq,
    UInt16.le_iff_toNat_le, UInt16.reduceToNat] at hex
  simp only [hexDigit, isDigit, Bool.and_eq_true, decide_eq_true_eq, UInt16.le_iff_toNat_le,
    UInt16.reduceToNat]
  split
  · omega
  · split <;> omega

/-- Each number below 32 has its character in the alphabet. -/
theorem charAt_crockford {d : Nat} (small : d < 32) : ∃ unit, charAt crockford d = [unit] ∧
    isTraceIdUnit unit = true ∧ crockford.idxOf unit = d := by
  have each : ∀ d < 32, isTraceIdUnit (crockford.getD d 0) = true ∧
      charAt crockford d = [crockford.getD d 0] ∧ crockford.idxOf (crockford.getD d 0) = d := by
    decide
  exact ⟨_, (each d small).2.1, (each d small).1, (each d small).2.2⟩

theorem crockfordLoop_succ (i n : Nat) (out : JsString) : ∃ unit, isTraceIdUnit unit = true ∧
    crockford.idxOf unit = n % 32 ∧
      crockfordLoop (i + 1) n out = crockfordLoop i (n / 32) (unit :: out) := by
  obtain ⟨unit, char, accepted, index⟩ := charAt_crockford (Nat.mod_lt n (by decide : 0 < 32))
  refine ⟨unit, accepted, index, ?_⟩
  have low : n &&& 31 = n % 32 := Nat.and_two_pow_sub_one_eq_mod n 5
  rw [crockfordLoop, low, char, Nat.shiftRight_eq_div_pow]
  rfl

theorem length_crockfordLoop (i n : Nat) : (crockfordLoop i n out).length = i + out.length := by
  induction i generalizing n out with
  | zero => simp [crockfordLoop]
  | succ i ih =>
    obtain ⟨unit, -, -, step⟩ := crockfordLoop_succ i n out
    rw [step, ih, List.length_cons]
    omega

theorem all_crockfordLoop (i n : Nat) (accepted : out.all isTraceIdUnit = true) :
    (crockfordLoop i n out).all isTraceIdUnit = true := by
  induction i generalizing n out with
  | zero => exact accepted
  | succ i ih =>
    obtain ⟨unit, unitAccepted, -, step⟩ := crockfordLoop_succ i n out
    rw [step]
    exact ih _ (by simp [unitAccepted, accepted])

/-- The digits written so far stand behind those still to be taken off the number. -/
theorem crockfordNumber_loop (i n : Nat) : crockfordNumber (crockfordLoop i n out) =
    crockfordNumber out + 32 ^ out.length * (n % 32 ^ i) := by
  induction i generalizing n out with
  | zero => simp [crockfordLoop, Nat.mod_one]
  | succ i ih =>
    obtain ⟨unit, -, index, step⟩ := crockfordLoop_succ i n out
    have digits : n % 32 ^ (i + 1) = n % 32 + 32 * (n / 32 % 32 ^ i) := by
      rw [Nat.pow_succ', Nat.mod_mul]
    calc crockfordNumber (crockfordLoop (i + 1) n out)
        = crockfordNumber (unit :: out) + 32 ^ (out.length + 1) * (n / 32 % 32 ^ i) := by
          rw [step, ih, List.length_cons]
      _ = crockfordNumber out + 32 ^ out.length * (n % 32) +
            32 ^ (out.length + 1) * (n / 32 % 32 ^ i) := by
          rw [crockfordNumber, numberOf_cons, index]
          rfl
      _ = crockfordNumber out + 32 ^ out.length * (n % 32 ^ (i + 1)) := by
          rw [digits, Nat.pow_succ, Nat.mul_add, Nat.mul_assoc, Nat.add_assoc]

end

/-- 32 hexadecimal digits which are not all zero. -/
structure HexTraceId (hex : JsString) : Prop where
  length : hex.length = 32
  digits : ∀ unit ∈ hex, isHexUnit unit = true
  recorded : ∃ unit ∈ hex, unit ≠ 0x30

theorem traceIdFromHex_eq {hex : JsString} (shape : HexTraceId hex) :
    traceIdFromHex hex = some (crockfordLoop 26 (hexNumber hex) []) := by
  obtain ⟨unit, mem, nonzero⟩ := shape.recorded
  have recorded : hex.all (· == 0x30) = false :=
    List.all_eq_false.mpr ⟨unit, mem, by simpa using nonzero⟩
  simpa [traceIdFromHex, shape.length, recorded] using shape.digits

theorem crockfordNumber_traceId {hex : JsString} (shape : HexTraceId hex) :
    crockfordNumber (crockfordLoop 26 (hexNumber hex) []) = hexNumber hex := by
  have bound : hexNumber hex < 16 ^ 32 := by
    rw [← shape.length]
    exact numberOf_lt (by decide) (fun unit mem => hexDigit_lt (shape.digits unit mem))
  have fits : hexNumber hex < 32 ^ 26 := Nat.lt_of_lt_of_le bound (by decide)
  rw [crockfordNumber_loop, Nat.mod_eq_of_lt fits]
  simp [crockfordNumber, numberOf]

/-- A trace id is accepted and has the number it was made from, so that the ids of two numbers
differ. -/
theorem traceIds_keep_numbers :
    (∀ hex, HexTraceId hex → ∃ id, traceIdFromHex hex = some id ∧ isTraceId id = true ∧
      crockfordNumber id = hexNumber hex) ∧
    ∀ hex hex', HexTraceId hex → HexTraceId hex' → hexNumber hex ≠ hexNumber hex' →
      traceIdFromHex hex ≠ traceIdFromHex hex' := by
  constructor
  · intro hex shape
    refine ⟨_, traceIdFromHex_eq shape, ?_, crockfordNumber_traceId shape⟩
    rw [isTraceId, Bool.and_eq_true, beq_iff_eq]
    exact ⟨length_crockfordLoop 26 _, all_crockfordLoop 26 _ rfl⟩
  · intro hex hex' shape shape' differ same
    rw [traceIdFromHex_eq shape, traceIdFromHex_eq shape', Option.some.injEq] at same
    have numbers := congrArg crockfordNumber same
    rw [crockfordNumber_traceId shape, crockfordNumber_traceId shape'] at numbers
    exact differ numbers

example : traceIdFromHex (jsString "0af7651916cd43dd8448eb211c80319C") =
    some (jsString "0AYXJHJ5PD8FER8J7B44E80CCW") := by decide

end SlotBooking
