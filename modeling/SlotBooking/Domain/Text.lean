import Mathlib.Data.List.DropRight
import Mathlib.Data.List.Infix
import SlotBooking.Library.ConstantTime

/-! Customer text: strings of UTF-16 code units, the normalisation each branded
string runs on decode, and the check it runs on decode and on encode.
Unicode normalisation itself belongs to the platform and is a parameter. -/
namespace SlotBooking

/-- A JavaScript string: any sequence of UTF-16 code units, lone surrogates included. -/
abbrev JsString := List UInt16

/-- What the platform supplies for texts: `String.prototype.normalize`. -/
structure Unicode where
  nfc : JsString → JsString
  nfkc : JsString → JsString

/-- Published facts about the normalisation forms: they are idempotent, a piece of a
normalised string is normalised, and nothing composes across an ASCII space. -/
structure Unicode.Standard (u : Unicode) : Prop where
  nfc_idempotent : ∀ s, u.nfc (u.nfc s) = u.nfc s
  nfkc_idempotent : ∀ s, u.nfkc (u.nfkc s) = u.nfkc s
  nfkc_piece : ∀ s t, u.nfkc s = s → t <:+: s → u.nfkc t = t
  nfkc_space : ∀ s t, u.nfkc (s ++ 0x20 :: t) = u.nfkc s ++ 0x20 :: u.nfkc t

/-- The class `\s` of a regular expression, which is also what `trim` removes. -/
def isWhiteSpace (unit : UInt16) : Bool :=
  (0x09 ≤ unit && unit ≤ 0x0d) || unit == 0x20 || unit == 0xa0 || unit == 0x1680 ||
  (0x2000 ≤ unit && unit ≤ 0x200a) || unit == 0x2028 || unit == 0x2029 || unit == 0x202f ||
  unit == 0x205f || unit == 0x3000 || unit == 0xfeff

def trim (s : JsString) : JsString := (s.dropWhile isWhiteSpace).rdropWhile isWhiteSpace

/-! ### Free text -/

/-- C0 without tab and line feed, DEL, and C1. -/
def isControlChar (unit : UInt16) : Bool :=
  unit ≤ 0x08 || unit == 0x0b || unit == 0x0c || (0x0e ≤ unit && unit ≤ 0x1f) ||
  (0x7f ≤ unit && unit ≤ 0x9f)

def stripControl (s : JsString) : JsString := s.filter (fun unit => !isControlChar unit)

def normalizeFreeText (u : Unicode) (raw : JsString) : JsString := trim (stripControl (u.nfc raw))

def isHighSurrogate (unit : UInt16) : Bool := 0xd800 ≤ unit && unit ≤ 0xdbff

def isLowSurrogate (unit : UInt16) : Bool := 0xdc00 ≤ unit && unit ≤ 0xdfff

/-- Code points as `for … of` counts them: a surrogate pair is one. -/
def codePointCount : JsString → Nat
  | [] => 0
  | [_] => 1
  | a :: b :: rest =>
    if isHighSurrogate a && isLowSurrogate b then 1 + codePointCount rest
    else 1 + codePointCount (b :: rest)

def freeTextMaxLength : Nat := 500

def isFreeText (s : JsString) : Bool := codePointCount s ≤ freeTextMaxLength

/-! ### Name in kana -/

/-- Maximal runs of white space become one ASCII space. -/
def collapseWhiteSpace : Bool → JsString → JsString
  | _, [] => []
  | inRun, unit :: rest =>
    if isWhiteSpace unit then
      if inRun then collapseWhiteSpace true rest else 0x20 :: collapseWhiteSpace true rest
    else unit :: collapseWhiteSpace false rest

def normalizeNameKana (u : Unicode) (raw : JsString) : JsString :=
  trim (collapseWhiteSpace false (u.nfkc raw))

def isKana (unit : UInt16) : Bool :=
  (0x30a0 ≤ unit && unit ≤ 0x30ff) || (0x3040 ≤ unit && unit ≤ 0x309f) ||
  (0xff65 ≤ unit && unit ≤ 0xff9f) || unit == 0x30fc

/-- `NAME_KANA_PATTERN` as its automaton: kana segments with one ASCII space between
neighbours. The flag tells whether a segment has been entered. -/
def matchesNameKana : Bool → JsString → Bool
  | inSegment, [] => inSegment
  | inSegment, unit :: rest =>
    if isKana unit then matchesNameKana true rest
    else unit == 0x20 && inSegment && matchesNameKana false rest

def nameKanaMaxLength : Nat := 50

def isNameKana (s : JsString) : Bool :=
  0 < s.length && s.length ≤ nameKanaMaxLength && matchesNameKana false s

/-! ### Last four digits of the phone number -/

def isDigit (unit : UInt16) : Bool := 0x30 ≤ unit && unit ≤ 0x39

def isPhoneLast4 (s : JsString) : Bool := s.length == 4 && s.all isDigit

/-! ### The branded strings of one customer -/

/-- `brandedString`: decode normalises and then checks; encode only checks. -/
def decodeBranded (normalize : JsString → JsString) (check : JsString → Bool) (raw : JsString) :
    Option JsString :=
  if check (normalize raw) then some (normalize raw) else none

def encodeBranded (check : JsString → Bool) (s : JsString) : Option JsString :=
  if check s then some s else none

def decodeNameKana (u : Unicode) : JsString → Option JsString :=
  decodeBranded (normalizeNameKana u) isNameKana

def decodePhoneLast4 : JsString → Option JsString := decodeBranded id isPhoneLast4

def decodeFreeText (u : Unicode) : JsString → Option JsString :=
  decodeBranded (normalizeFreeText u) isFreeText

structure CustomerHandle where
  nameKana : JsString
  phoneLast4 : JsString
deriving DecidableEq

structure CustomerFields extends CustomerHandle where
  freeText : Option JsString
deriving DecidableEq

def nullOr (f : JsString → Option JsString) : Option JsString → Option (Option JsString)
  | none => some none
  | some s => (f s).map some

def encodeFields (f : CustomerFields) : Option CustomerFields := do
  let nameKana ← encodeBranded isNameKana f.nameKana
  let phoneLast4 ← encodeBranded isPhoneLast4 f.phoneLast4
  let freeText ← nullOr (encodeBranded isFreeText) f.freeText
  return { nameKana, phoneLast4, freeText }

def decodeFields (u : Unicode) (f : CustomerFields) : Option CustomerFields := do
  let nameKana ← decodeNameKana u f.nameKana
  let phoneLast4 ← decodePhoneLast4 f.phoneLast4
  let freeText ← nullOr (decodeFreeText u) f.freeText
  return { nameKana, phoneLast4, freeText }

/-- Texts which the codec gives back unchanged. -/
def Canonical (u : Unicode) (f : CustomerFields) : Prop := decodeFields u f = some f

instance (u : Unicode) (f : CustomerFields) : Decidable (Canonical u f) :=
  inferInstanceAs (Decidable (decodeFields u f = some f))

theorem encodeBranded_eq_some {check : JsString → Bool} {s t : JsString} :
    encodeBranded check s = some t ↔ t = s ∧ check s := by
  unfold encodeBranded
  split
  · rename_i passed
    rw [Option.some.injEq]
    exact ⟨fun h => ⟨h.symm, passed⟩, fun h => h.1.symm⟩
  · rename_i refused
    exact ⟨nofun, fun h => absurd h.2 refused⟩

theorem decodeBranded_eq_some {normalize : JsString → JsString} {check : JsString → Bool}
    {s t : JsString} : decodeBranded normalize check s = some t ↔ t = normalize s ∧ check t := by
  unfold decodeBranded
  split
  · rename_i passed
    rw [Option.some.injEq]
    exact ⟨fun h => h ▸ ⟨rfl, passed⟩, fun h => h.1.symm⟩
  · rename_i refused
    exact ⟨nofun, fun h => absurd (h.1 ▸ h.2) refused⟩

theorem nullOr_eq_some {f : JsString → Option JsString} {s t : Option JsString} :
    nullOr f s = some t ↔ (s = none ∧ t = none) ∨ ∃ a b, s = some a ∧ f a = some b ∧ t = some b := by
  cases s with
  | none => simp [nullOr, eq_comm]
  | some a => simp [nullOr, eq_comm]

/-- The texts which the encoder lets through. -/
structure CustomerFields.Valid (f : CustomerFields) : Prop where
  nameKana : isNameKana f.nameKana
  phoneLast4 : isPhoneLast4 f.phoneLast4
  freeText : ∀ s, f.freeText = some s → isFreeText s

theorem encodeFields_eq_some {f g : CustomerFields} :
    encodeFields f = some g ↔ g = f ∧ f.Valid := by
  obtain ⟨⟨nameKana, phoneLast4⟩, freeText⟩ := f
  simp only [encodeFields, bind, Option.bind_eq_some_iff, encodeBranded_eq_some, nullOr_eq_some]
  constructor
  · rintro ⟨_, ⟨rfl, name⟩, _, ⟨rfl, phone⟩, _, free, same⟩
    cases same
    rcases free with ⟨rfl, rfl⟩ | ⟨a, _, rfl, ⟨rfl, ok⟩, rfl⟩
    · exact ⟨rfl, name, phone, nofun⟩
    · exact ⟨rfl, name, phone, fun s h => by cases h; exact ok⟩
  · rintro ⟨rfl, name, phone, free⟩
    refine ⟨nameKana, ⟨rfl, name⟩, phoneLast4, ⟨rfl, phone⟩, freeText, ?_, rfl⟩
    cases freeText with
    | none => exact .inl ⟨rfl, rfl⟩
    | some a => exact .inr ⟨a, a, rfl, ⟨rfl, free a rfl⟩, rfl⟩

theorem decodeFields_valid {u : Unicode} {f g : CustomerFields}
    (decoded : decodeFields u f = some g) : g.Valid := by
  simp only [decodeFields, bind, Option.bind_eq_some_iff, decodeNameKana, decodePhoneLast4,
    decodeFreeText, decodeBranded_eq_some, nullOr_eq_some] at decoded
  obtain ⟨name, ⟨_, nameOk⟩, phone, ⟨_, phoneOk⟩, free, freeOk, same⟩ := decoded
  cases same
  refine ⟨nameOk, phoneOk, ?_⟩
  intro s hs
  rcases freeOk with ⟨_, rfl⟩ | ⟨a, b, _, ⟨_, ok⟩, rfl⟩
  · cases hs
  · cases hs; exact ok

theorem Canonical.valid {u : Unicode} {f : CustomerFields} (canonical : Canonical u f) : f.Valid :=
  decodeFields_valid canonical

/-- `constantTimeStringEqual`: the differences of all code units, gathered by `|`. -/
def constantTimeStringEqual (a b : JsString) : Bool :=
  if a.length ≠ b.length then false
  else (List.zipWith (fun x y => x ^^^ y) a b).foldl (fun diff x => diff ||| x) 0 == 0

def equalsCustomerHandle (a b : CustomerHandle) : Bool :=
  let kanaOK := constantTimeStringEqual a.nameKana b.nameKana
  let phoneOK := constantTimeStringEqual a.phoneLast4 b.phoneLast4
  kanaOK && phoneOK

theorem constantTimeStringEqual_iff {a b : JsString} :
    constantTimeStringEqual a b = true ↔ a = b := by
  unfold constantTimeStringEqual
  by_cases length : a.length = b.length
  · rw [if_neg (not_not.mpr length), beq_iff_eq]
    exact ConstantTime.differences_eq_zero (fun _ _ => UInt16.or_eq_zero_iff)
      (fun _ _ => UInt16.xor_eq_zero_iff) length
  · rw [if_pos length]
    exact ⟨nofun, fun same => absurd (congrArg List.length same) length⟩

theorem equalsCustomerHandle_iff {a b : CustomerHandle} :
    equalsCustomerHandle a b = true ↔ a = b := by
  obtain ⟨nameA, phoneA⟩ := a
  obtain ⟨nameB, phoneB⟩ := b
  simp only [equalsCustomerHandle, Bool.and_eq_true, constantTimeStringEqual_iff,
    CustomerHandle.mk.injEq]

end SlotBooking
