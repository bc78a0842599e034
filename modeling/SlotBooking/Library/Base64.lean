import Mathlib.Data.List.DropRight
import Mathlib.Order.Nat

/-! Base64 over lists of UTF-16 code units: the standard encoding, and the forgiving decoding of
the web platform. -/
namespace Base64

/-! ### The alphabet -/

def pad : UInt16 := 0x3d

def digit (n : Nat) : UInt16 :=
  if n < 26 then UInt16.ofNat (0x41 + n)
  else if n < 52 then UInt16.ofNat (0x61 + (n - 26))
  else if n < 62 then UInt16.ofNat (0x30 + (n - 52))
  else if n = 62 then 0x2b else 0x2f

def value (unit : UInt16) : Option Nat :=
  if 0x41 ≤ unit ∧ unit ≤ 0x5a then some (unit.toNat - 0x41)
  else if 0x61 ≤ unit ∧ unit ≤ 0x7a then some (unit.toNat - 0x61 + 26)
  else if 0x30 ≤ unit ∧ unit ≤ 0x39 then some (unit.toNat - 0x30 + 52)
  else if unit = 0x2b then some 62
  else if unit = 0x2f then some 63
  else none

theorem value_digit {n : Nat} (small : n < 64) : value (digit n) = some n := by
  have each : ∀ n < 64, value (digit n) = some n := by decide
  exact each n small

/-- What `atob` drops before it decodes. -/
def isAsciiWhiteSpace (unit : UInt16) : Bool :=
  unit == 0x09 || unit == 0x0a || unit == 0x0c || unit == 0x0d || unit == 0x20

theorem digit_plain {n : Nat} (small : n < 64) :
    digit n ≠ pad ∧ isAsciiWhiteSpace (digit n) = false := by
  have each : ∀ n < 64, digit n ≠ pad ∧ isAsciiWhiteSpace (digit n) = false := by decide
  exact each n small

/-! ### Groups of six bits -/

def sextets : List UInt8 → List Nat
  | [] => []
  | [a] => [a.toNat / 4, a.toNat % 4 * 16]
  | [a, b] => [a.toNat / 4, a.toNat % 4 * 16 + b.toNat / 16, b.toNat % 16 * 4]
  | a :: b :: c :: rest =>
    a.toNat / 4 :: (a.toNat % 4 * 16 + b.toNat / 16) :: (b.toNat % 16 * 4 + c.toNat / 64) ::
      c.toNat % 64 :: sextets rest

/-- The bits which are left over at the end are dropped. -/
def octets : List Nat → List UInt8
  | [] | [_] => []
  | [x, y] => [UInt8.ofNat (x * 4 + y / 16)]
  | [x, y, z] => [UInt8.ofNat (x * 4 + y / 16), UInt8.ofNat (y % 16 * 16 + z / 4)]
  | x :: y :: z :: w :: rest =>
    UInt8.ofNat (x * 4 + y / 16) :: UInt8.ofNat (y % 16 * 16 + z / 4) ::
      UInt8.ofNat (z % 4 * 64 + w) :: octets rest

theorem sextets_lt (bytes : List UInt8) : ∀ n ∈ sextets bytes, n < 64 := by
  induction bytes using sextets.induct with
  | case1 => simp [sextets]
  | case2 a =>
    have bound := a.toNat_lt
    simp only [sextets, List.mem_cons, List.not_mem_nil, or_false]
    omega
  | case3 a b =>
    have boundA := a.toNat_lt
    have boundB := b.toNat_lt
    simp only [sextets, List.mem_cons, List.not_mem_nil, or_false]
    omega
  | case4 a b c rest ih =>
    have boundA := a.toNat_lt
    have boundB := b.toNat_lt
    have boundC := c.toNat_lt
    simp only [sextets, List.forall_mem_cons]
    refine ⟨?_, ?_, ?_, ?_, ih⟩ <;> omega

theorem octets_sextets (bytes : List UInt8) : octets (sextets bytes) = bytes := by
  have read : ∀ {a : UInt8} {n : Nat}, n = a.toNat → UInt8.ofNat n = a := by
    rintro a n rfl
    exact UInt8.ofNat_toNat
  induction bytes using sextets.induct with
  | case1 => rfl
  | case2 a =>
    have bound := a.toNat_lt
    simp only [sextets, octets]
    rw [read (a := a) (by omega)]
  | case3 a b =>
    have boundA := a.toNat_lt
    have boundB := b.toNat_lt
    simp only [sextets, octets]
    rw [read (a := a) (by omega), read (a := b) (by omega)]
  | case4 a b c rest ih =>
    have boundA := a.toNat_lt
    have boundB := b.toNat_lt
    have boundC := c.toNat_lt
    simp only [sextets, octets]
    rw [read (a := a) (by omega), read (a := b) (by omega), read (a := c) (by omega), ih]

/-- Three bytes make four digits; one digit alone is never left over. -/
theorem length_sextets (bytes : List UInt8) :
    (sextets bytes).length % 4 = (if bytes.length % 3 = 0 then 0 else bytes.length % 3 + 1) := by
  induction bytes using sextets.induct with
  | case1 | case2 | case3 => simp [sextets]
  | case4 a b c rest ih =>
    simp only [sextets, List.length_cons]
    have shift : (rest.length + 1 + 1 + 1) % 3 = rest.length % 3 := by omega
    rw [shift, ← ih]
    omega

/-! ### Texts -/

/-- The digits of an encoding, before it is padded. -/
def digits (bytes : List UInt8) : List UInt16 := (sextets bytes).map digit

def padding (length : Nat) : List UInt16 := List.replicate ((4 - length % 4) % 4) pad

/-- `btoa`, on the bytes of a binary string. -/
def encode (bytes : List UInt8) : List UInt16 := digits bytes ++ padding (digits bytes).length

/-- One or two trailing pads of a text whose length divides by four. -/
def dropPadding (text : List UInt16) : List UInt16 :=
  if text.length % 4 = 0 then
    if [pad, pad].isSuffixOf text then text.take (text.length - 2)
    else if [pad].isSuffixOf text then text.take (text.length - 1)
    else text
  else text

/-- `atob`, to the bytes of a binary string; no value where it throws. -/
def decode (text : List UInt16) : Option (List UInt8) :=
  let text := dropPadding (text.filter (fun unit => !isAsciiWhiteSpace unit))
  if text.length % 4 = 1 then none else (text.mapM value).map octets

variable {bytes : List UInt8}

theorem mem_digits {unit : UInt16} (mem : unit ∈ digits bytes) : ∃ n < 64, unit = digit n := by
  obtain ⟨n, inside, rfl⟩ := List.mem_map.mp mem
  exact ⟨n, sextets_lt bytes n inside, rfl⟩

theorem pad_notMem_digits : pad ∉ digits bytes := by
  intro mem
  obtain ⟨n, small, same⟩ := mem_digits mem
  exact (digit_plain small).1 same.symm

theorem length_digits : (digits bytes).length % 4 ≠ 1 := by
  rw [digits, List.length_map, length_sextets]
  split <;> omega

theorem mapM_value (ns : List Nat) (small : ∀ n ∈ ns, n < 64) :
    (ns.map digit).mapM value = some ns := by
  induction ns with
  | nil => rfl
  | cons n ns ih =>
    obtain ⟨head, tail⟩ := List.forall_mem_cons.mp small
    simp [value_digit head, ih tail]

/-- A text without pads at its end, and the pads it takes to divide by four. -/
theorem dropPadding_append {text : List UInt16} (plain : pad ∉ text) (odd : text.length % 4 ≠ 1) :
    dropPadding (text ++ padding text.length) = text := by
  have bound := Nat.mod_lt text.length (show 0 < 4 by decide)
  have last : ∀ {front : List UInt16}, ¬ (front ++ [pad]) <:+ text := by
    intro front suffix
    exact plain (suffix.subset (by simp))
  obtain none_ | two | three : text.length % 4 = 0 ∨ text.length % 4 = 2 ∨ text.length % 4 = 3 := by
    omega
  · have two : ¬ [pad, pad] <:+ text := @last [pad]
    have one : ¬ [pad] <:+ text := @last []
    simp [padding, dropPadding, none_, List.isSuffixOf_iff_suffix, two, one]
  · have whole : (text.length + 2) % 4 = 0 := by omega
    have ends : [pad, pad] <:+ text ++ [pad, pad] := List.suffix_append _ _
    simp [padding, dropPadding, two, whole, List.isSuffixOf_iff_suffix, ends]
  · have whole : (text.length + 1) % 4 = 0 := by omega
    have ends : [pad] <:+ text ++ [pad] := List.suffix_append _ _
    have single : ¬ [pad, pad] <:+ text ++ [pad] := by
      intro suffix
      obtain ⟨front, same⟩ := suffix
      have cut : front ++ [pad] = text :=
        (List.append_inj' (by simpa using same : (front ++ [pad]) ++ [pad] = text ++ [pad]) rfl).1
      exact plain (cut ▸ by simp)
    simp [padding, dropPadding, three, whole, List.isSuffixOf_iff_suffix, ends, single]

/-- What is read of an encoding is its bytes. -/
theorem decode_encode (bytes : List UInt8) : decode (encode bytes) = some bytes := by
  have plain : (encode bytes).filter (fun unit => !isAsciiWhiteSpace unit) = encode bytes := by
    rw [List.filter_eq_self]
    intro unit mem
    rcases List.mem_append.mp mem with mem | mem
    · obtain ⟨n, small, rfl⟩ := mem_digits mem
      simp [(digit_plain small).2]
    · rw [(List.mem_replicate.mp mem).2]
      decide
  rw [decode, plain, encode, dropPadding_append pad_notMem_digits length_digits]
  simp only [length_digits, if_false]
  rw [digits, mapM_value _ (sextets_lt bytes), Option.map_some, octets_sextets]

end Base64
