import SlotBooking.Domain.Text
import SlotBooking.Library.Base64

/-! The two codecs for URL-safe base64: the one of the push package, and the one of the staff
session. A binary string is the list of the bytes in it. -/
namespace SlotBooking

/-! ### The push package -/

def base64UrlToBase64 : List (UInt16 × UInt16) := [(0x2d, 0x2b), (0x5f, 0x2f)]

def base64ToBase64Url : List (UInt16 × UInt16) := [(0x2b, 0x2d), (0x2f, 0x5f)]

def replaceAll (s : JsString) (table : List (UInt16 × UInt16)) : JsString :=
  s.map (fun ch => (table.lookup ch).getD ch)

/-- `replace(/=+$/, "")`. -/
def stripPadding (s : JsString) : JsString := s.rdropWhile (· == Base64.pad)

def bytesToBase64Url (bytes : List UInt8) : JsString :=
  replaceAll (stripPadding (Base64.encode bytes)) base64ToBase64Url

/-- No value where `atob` throws. -/
def base64UrlToBytes (b64url : JsString) : Option (List UInt8) :=
  let b64 := replaceAll b64url base64UrlToBase64
  Base64.decode (b64 ++ List.replicate ((4 - b64.length % 4) % 4) Base64.pad)

/-! ### The session -/

def swap (old new ch : UInt16) : UInt16 := if ch = old then new else ch

/-- `replace` with a global pattern of one character. -/
def replaceChar (old new : UInt16) (s : JsString) : JsString := s.map (swap old new)

def b64urlEncode (bytes : List UInt8) : JsString :=
  stripPadding (replaceChar 0x2f 0x5f (replaceChar 0x2b 0x2d (Base64.encode bytes)))

/-- Three pads are added, and what does not fill a group of four is cut off again. -/
def b64urlDecode (s : JsString) : Option (List UInt8) :=
  let padded := replaceChar 0x5f 0x2f (replaceChar 0x2d 0x2b s) ++ List.replicate 3 Base64.pad
  let trimmed := padded.take (padded.length - padded.length % 4)
  Base64.decode trimmed

/-! ### Characters -/

/-- Letters, digits, `-` and `_`. -/
def isUrlSafe (unit : UInt16) : Bool :=
  (0x41 ≤ unit && unit ≤ 0x5a) || (0x61 ≤ unit && unit ≤ 0x7a) || (0x30 ≤ unit && unit ≤ 0x39) ||
    unit == 0x2d || unit == 0x5f

def urlDigit (n : Nat) : UInt16 := (base64ToBase64Url.lookup (Base64.digit n)).getD (Base64.digit n)

/-- The digits of an encoding, in the URL-safe alphabet. -/
def urlDigits (bytes : List UInt8) : JsString := (Base64.sextets bytes).map urlDigit

theorem urlDigit_safe {n : Nat} (small : n < 64) : isUrlSafe (urlDigit n) = true := by
  have each : ∀ n < 64, isUrlSafe (urlDigit n) = true := by decide
  exact each n small

theorem swap_digit {n : Nat} (small : n < 64) :
    swap 0x2f 0x5f (swap 0x2b 0x2d (Base64.digit n)) = urlDigit n := by
  have each : ∀ n < 64, swap 0x2f 0x5f (swap 0x2b 0x2d (Base64.digit n)) = urlDigit n := by decide
  exact each n small

/-- One character after the other comes to the same as the table. -/
theorem swap_eq_lookup (ch : UInt16) :
    swap 0x5f 0x2f (swap 0x2d 0x2b ch) = (base64UrlToBase64.lookup ch).getD ch := by
  by_cases dash : ch = 0x2d
  · subst dash
    decide
  · by_cases underscore : ch = 0x5f
    · subst underscore
      decide
    · simp [swap, base64UrlToBase64, List.lookup_cons, beq_eq_false_iff_ne.mpr, dash, underscore]

theorem lookup_urlDigit {n : Nat} (small : n < 64) :
    (base64UrlToBase64.lookup (urlDigit n)).getD (urlDigit n) = Base64.digit n := by
  have each : ∀ n < 64,
      (base64UrlToBase64.lookup (urlDigit n)).getD (urlDigit n) = Base64.digit n := by decide
  exact each n small

theorem stripPadding_append {text : JsString} (plain : Base64.pad ∉ text) (count : Nat) :
    stripPadding (text ++ List.replicate count Base64.pad) = text := by
  induction count with
  | zero =>
    rw [List.replicate_zero, List.append_nil, stripPadding]
    refine List.rdropWhile_eq_self_iff.mpr (fun some_ last => plain ?_)
    rw [← beq_iff_eq.mp last]
    exact List.getLast_mem some_
  | succ count ih =>
    rw [List.replicate_succ', ← List.append_assoc, stripPadding,
      List.rdropWhile_concat_pos _ _ _ (by simp)]
    exact ih

section
variable {bytes : List UInt8}

theorem pad_notMem_urlDigits : Base64.pad ∉ urlDigits bytes := by
  intro mem
  obtain ⟨n, inside, same⟩ := List.mem_map.mp mem
  have safe := urlDigit_safe (Base64.sextets_lt bytes n inside)
  rw [same] at safe
  cases safe

theorem bytesToBase64Url_eq (bytes : List UInt8) : bytesToBase64Url bytes = urlDigits bytes := by
  rw [bytesToBase64Url, Base64.encode, Base64.padding, stripPadding_append Base64.pad_notMem_digits]
  simp [replaceAll, Base64.digits, urlDigits, urlDigit, Function.comp_def]

theorem b64urlEncode_eq (bytes : List UInt8) : b64urlEncode bytes = urlDigits bytes := by
  have digits : replaceChar 0x2f 0x5f (replaceChar 0x2b 0x2d (Base64.digits bytes)) =
      urlDigits bytes := by
    simp only [replaceChar, Base64.digits, List.map_map, urlDigits]
    exact List.map_congr_left (fun n inside => swap_digit (Base64.sextets_lt bytes n inside))
  have pads : ∀ length, replaceChar 0x2f 0x5f (replaceChar 0x2b 0x2d (Base64.padding length)) =
      Base64.padding length := by
    intro length
    simp [replaceChar, Base64.padding, List.map_replicate, swap, Base64.pad]
  have both : replaceChar 0x2f 0x5f (replaceChar 0x2b 0x2d (Base64.encode bytes)) =
      urlDigits bytes ++ Base64.padding (Base64.digits bytes).length := by
    rw [← digits, ← pads (Base64.digits bytes).length]
    simp only [Base64.encode, replaceChar, List.map_append]
  rw [b64urlEncode, both, Base64.padding, stripPadding_append pad_notMem_urlDigits]

theorem base64UrlToBytes_urlDigits : base64UrlToBytes (urlDigits bytes) = some bytes := by
  have back : replaceAll (urlDigits bytes) base64UrlToBase64 = Base64.digits bytes := by
    simp only [replaceAll, urlDigits, Base64.digits, List.map_map]
    exact List.map_congr_left (fun n inside => lookup_urlDigit (Base64.sextets_lt bytes n inside))
  rw [base64UrlToBytes, back]
  exact Base64.decode_encode bytes

/-- Of the three pads of the session those are left which the package adds. -/
theorem b64urlDecode_eq (s : JsString) : b64urlDecode s = base64UrlToBytes s := by
  have table : replaceChar 0x5f 0x2f (replaceChar 0x2d 0x2b s) =
      replaceAll s base64UrlToBase64 := by
    simp only [replaceChar, replaceAll, List.map_map]
    exact List.map_congr_left (fun ch _ => swap_eq_lookup ch)
  simp only [b64urlDecode, base64UrlToBytes, table]
  generalize replaceAll s base64UrlToBase64 = text
  have bound := Nat.mod_lt text.length (show 0 < 4 by decide)
  have kept : text.length + 3 - (text.length + 3) % 4 =
      text.length + (4 - text.length % 4) % 4 := by omega
  have few : (4 - text.length % 4) % 4 ≤ 3 := by omega
  rw [List.length_append, List.length_replicate, kept, List.take_length_add_append,
    List.take_replicate, Nat.min_eq_left few]

end

/-- Bytes come back as they were, the text is URL-safe without padding, the two encoders agree on
all bytes, and the two decoders on all texts. -/
theorem codecs_round_trip :
    (∀ bytes, base64UrlToBytes (bytesToBase64Url bytes) = some bytes ∧
      (∀ unit ∈ bytesToBase64Url bytes, isUrlSafe unit = true) ∧
      b64urlEncode bytes = bytesToBase64Url bytes) ∧
    ∀ s, b64urlDecode s = base64UrlToBytes s := by
  refine ⟨fun bytes => ?_, b64urlDecode_eq⟩
  rw [bytesToBase64Url_eq, b64urlEncode_eq, base64UrlToBytes_urlDigits]
  refine ⟨rfl, fun unit mem => ?_, rfl⟩
  obtain ⟨n, inside, rfl⟩ := List.mem_map.mp mem
  exact urlDigit_safe (Base64.sextets_lt bytes n inside)

example : bytesToBase64Url [0xfb, 0xff] = [0x2d, 0x5f, 0x38] := by decide

end SlotBooking
