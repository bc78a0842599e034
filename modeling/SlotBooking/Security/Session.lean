import SlotBooking.Domain.CanonicalText
import SlotBooking.Domain.ParsedJson
import SlotBooking.Library.Separator
import SlotBooking.Security.Base64Url
import SlotBooking.Security.TimingSafeEqual

/-! The session of the staff: a JSON payload in a signed cookie. HMAC, the JSON texts and the
decoder of bytes belong to the platform and are parameters. -/
namespace SlotBooking

/-- The `sub` of every payload is the literal `"staff"`. -/
structure SessionPayload (N : Type) where
  exp : N
  capabilities : List JsString

/-- `hmac` takes the bytes of the key and of the text; no value where a key is not imported. -/
structure SessionPlatform (N : Type) where
  hmac : List UInt8 → List UInt8 → Option (List UInt8)
  stringify : ParsedJson N → JsString
  parse : JsString → Option (ParsedJson N)
  decodeUtf8 : List UInt8 → JsString

section
variable {N : Type}

def SessionPayload.json (payload : SessionPayload N) : ParsedJson N :=
  .object [(jsString "sub", .string (jsString "staff")), (jsString "exp", .number payload.exp),
    (jsString "capabilities", .array (payload.capabilities.map .string))]

/-- The strings among the elements of an array. -/
def capabilitiesOf : Option (ParsedJson N) → List JsString
  | some (.array elements) => elements.filterMap ParsedJson.string?
  | _ => []

variable [LT N] [DecidableLT N]

/-- The checks on a payload whose signature is right. -/
def readPayload (now : N) (parsed : ParsedJson N) : Except String (SessionPayload N) :=
  match parsed.property (jsString "sub"), parsed.property (jsString "exp") with
  | some (.string sub), some (.number exp) =>
    if sub ≠ jsString "staff" then .error "malformed_payload"
    else if exp < now then .error "expired"
    else .ok ⟨exp, capabilitiesOf (parsed.property (jsString "capabilities"))⟩
  | _, _ => .error "malformed_payload"

variable (platform : SessionPlatform N) (secret : JsString)

/-- `.` -/
def dot : UInt16 := 0x2e

def signSession (payload : SessionPayload N) : Option JsString := do
  let body := b64urlEncode (encodeUtf8 (platform.stringify payload.json))
  let sigBytes ← platform.hmac (encodeUtf8 secret) (encodeUtf8 body)
  return body ++ dot :: b64urlEncode sigBytes

/-- The text is cut at its last dot; neither cut may be before the first character. -/
def verifySession (cookie : JsString) (now : N) : Option (Except String (SessionPayload N)) :=
  match Separator.splitLast dot cookie with
  | none | some ([], _) => some (.error "malformed")
  | some (body, presentedSig) =>
    (platform.hmac (encodeUtf8 secret) (encodeUtf8 body)).map fun expectedSigBytes =>
      if !timingSafeEqual presentedSig (b64urlEncode expectedSigBytes) then .error "bad_signature"
      else
        match (b64urlDecode body).bind (fun raw => platform.parse (platform.decodeUtf8 raw)) with
        | none => .error "malformed_payload"
        | some parsed => readPayload now parsed

end

/-- The name of a cookie ends at its first `=`; a segment without one is all name. -/
def cookieNameOf (segment : JsString) : JsString := (trim segment).takeWhile (· ≠ 0x3d)

/-- The header has a cookie of the session with this value, and none of its name before. -/
def FirstCookie (header token : JsString) : Prop :=
  ∃ before lead trail after, header =
      [0x3b].intercalate (before ++ (lead ++ (cookieName ++ 0x3d :: token) ++ trail) :: after) ∧
    (∀ segment ∈ before ++ after, 0x3b ∉ segment) ∧
    (∀ segment ∈ before, cookieNameOf segment ≠ cookieName) ∧
    ∀ unit ∈ lead ++ trail, isWhiteSpace unit = true

section
variable {N : Type} {platform : SessionPlatform N} {secret : JsString} {payload : SessionPayload N}

/-- What is published of JSON and UTF-8, for the text of one payload: it is not empty, its bytes
decode to it, and it parses to the value it was made from. -/
structure SessionPlatform.ReadsBack (platform : SessionPlatform N) (payload : SessionPayload N) :
    Prop where
  shown : platform.stringify payload.json ≠ []
  decodes : platform.decodeUtf8 (encodeUtf8 (platform.stringify payload.json)) =
    platform.stringify payload.json
  parses : platform.parse (platform.stringify payload.json) = some payload.json

theorem urlDigit_plain {n : Nat} (small : n < 64) : isWhiteSpace (urlDigit n) = false ∧
    urlDigit n ≠ 0x3b ∧ urlDigit n ≠ dot ∧ urlDigit n ≠ 0xfffd ∧
    isSurrogate (urlDigit n) = false := by
  have each : ∀ n < 64, isWhiteSpace (urlDigit n) = false ∧ urlDigit n ≠ 0x3b ∧ urlDigit n ≠ dot ∧
      urlDigit n ≠ 0xfffd ∧ isSurrogate (urlDigit n) = false := by decide
  exact each n small

theorem encoded_plain {bytes : List UInt8} {unit : UInt16} (mem : unit ∈ b64urlEncode bytes) :
    isWhiteSpace unit = false ∧ unit ≠ 0x3b ∧ unit ≠ dot ∧ unit ≠ 0xfffd ∧
      isSurrogate unit = false := by
  rw [b64urlEncode_eq] at mem
  obtain ⟨n, inside, rfl⟩ := List.mem_map.mp mem
  exact urlDigit_plain (Base64.sextets_lt bytes n inside)

theorem encoded_ne_nil {bytes : List UInt8} (some_ : bytes ≠ []) : b64urlEncode bytes ≠ [] := by
  rw [b64urlEncode_eq, urlDigits]
  cases bytes with
  | nil => exact absurd rfl some_
  | cons a rest =>
    cases rest with
    | nil => simp [Base64.sextets]
    | cons b rest => cases rest <;> simp [Base64.sextets]

theorem encodeUtf8_ne_nil {s : JsString} (some_ : s ≠ []) : encodeUtf8 s ≠ [] := by
  intro empty
  have same : usvString s = usvString [] := by
    rw [← String.toByteArray_inj, ← String.toUTF8_eq_toByteArray, ← String.toUTF8_eq_toByteArray,
      ByteArray.ext_iff, ← Array.toList_inj]
    exact empty
  rw [usvString_eq_iff] at same
  match s with
  | [] => exact some_ rfl
  | [a] => cases same
  | a :: b :: rest =>
    simp only [toWellFormed] at same
    split at same <;> cases same

/-- Against an encoded text the comparer lets nothing else pass. -/
theorem timingSafeEqual_encoded {presented : JsString} {bytes : List UInt8} :
    timingSafeEqual presented (b64urlEncode bytes) = true ↔ presented = b64urlEncode bytes := by
  have formed : toWellFormed (b64urlEncode bytes) = b64urlEncode bytes :=
    toWellFormed_plain (fun unit mem => (encoded_plain mem).2.2.2.2)
  rw [timingSafeEqual_iff, usvString_eq_iff, formed]
  constructor
  · intro same
    have kept : 0xfffd ∉ toWellFormed presented := by
      rw [same]
      exact fun mem => (encoded_plain mem).2.2.2.1 rfl
    exact (toWellFormed_eq kept).symm.trans same
  · rintro rfl
    exact formed

/-! ### The cookie header -/

theorem cookiePieces_head (segment : JsString) :
    (cookiePieces segment).head? = some (cookieNameOf segment) := Separator.head?_splitOn _

theorem cookieName_plain : (0x3d : UInt16) ∉ cookieName ∧ (0x3b : UInt16) ∉ cookieName := by
  decide

section
variable {token lead trail : JsString}

theorem trim_cookie (some_ : token ≠ []) (plain : ∀ unit ∈ token, isWhiteSpace unit = false) :
    trim (cookieName ++ 0x3d :: token) = cookieName ++ 0x3d :: token := by
  refine trim_eq_self_iff.mpr ⟨fun unit start => ?_, fun unit last => ?_⟩
  · have same : unit = 0x5f := (Option.some.inj start).symm
    subst same
    decide
  · have end_ : (cookieName ++ 0x3d :: token).getLast? = token.getLast? := by
      rw [List.getLast?_append_of_ne_nil _ (by simp), List.getLast?_cons]
      simp [List.getLast?_eq_some_getLast some_]
    rw [end_] at last
    exact plain unit (List.mem_of_getLast? last)

theorem cookiePieces_token (some_ : token ≠ []) (plain : ∀ unit ∈ token, isWhiteSpace unit = false)
    (blankLead : ∀ unit ∈ lead, isWhiteSpace unit = true)
    (blankTrail : ∀ unit ∈ trail, isWhiteSpace unit = true) :
    cookiePieces (lead ++ (cookieName ++ 0x3d :: token) ++ trail) =
      cookieName :: token.splitOn 0x3d := by
  rw [cookiePieces, trim_between (by simp) (trim_cookie some_ plain) blankLead blankTrail]
  exact List.splitOn_append_cons_self_of_not_mem cookieName_plain.1 token

theorem blank_whole {s : JsString} (blank : ∀ unit ∈ s, isWhiteSpace unit = true) : 0x3b ∉ s := by
  intro mem
  cases blank 0x3b mem

theorem cookie_whole (plain : ∀ unit ∈ token, unit ≠ 0x3b)
    (blankLead : ∀ unit ∈ lead, isWhiteSpace unit = true)
    (blankTrail : ∀ unit ∈ trail, isWhiteSpace unit = true) :
    0x3b ∉ lead ++ (cookieName ++ 0x3d :: token) ++ trail := by
  simp only [List.mem_append, List.mem_cons, not_or]
  exact ⟨⟨blank_whole blankLead, cookieName_plain.2, by decide, fun mem => plain _ mem rfl⟩,
    blank_whole blankTrail⟩

end

/-- A token without white space and semicolons is read back from where it comes first. -/
theorem readSessionCookie_first {header token : JsString} (some_ : token ≠ [])
    (plain : ∀ unit ∈ token, isWhiteSpace unit = false ∧ unit ≠ 0x3b)
    (first : FirstCookie header token) : readSessionCookie (some header) = some token := by
  obtain ⟨before, lead, trail, after, rfl, whole, others, blank⟩ := first
  obtain ⟨blankLead, blankTrail⟩ := List.forall_mem_append.mp blank
  have pieces := cookiePieces_token some_ (fun unit mem => (plain unit mem).1) blankLead blankTrail
  have here := cookie_whole (fun unit mem => (plain unit mem).2) blankLead blankTrail
  have uncut : ∀ segment ∈ before ++ (lead ++ (cookieName ++ 0x3d :: token) ++ trail) :: after,
      0x3b ∉ segment := by
    obtain ⟨wholeBefore, wholeAfter⟩ := List.forall_mem_append.mp whole
    exact List.forall_mem_append.mpr ⟨wholeBefore, List.forall_mem_cons.mpr ⟨here, wholeAfter⟩⟩
  have split := List.splitOn_intercalate 0x3b uncut (by simp)
  have skipped : before.find? (fun s => (cookiePieces s).head? = some cookieName) = none := by
    rw [List.find?_eq_none]
    intro s mem
    simpa [cookiePieces_head] using others s mem
  have found : (before ++ (lead ++ (cookieName ++ 0x3d :: token) ++ trail) :: after).find?
      (fun s => (cookiePieces s).head? = some cookieName) =
        some (lead ++ (cookieName ++ 0x3d :: token) ++ trail) := by
    rw [List.find?_append, skipped, Option.none_or, List.find?_cons, pieces]
    simp
  simp only [readSessionCookie, split, found, pieces, List.tail_cons, List.intercalate_splitOn]
  simp [List.length_pos_iff, some_]

/-! ### Tokens -/

theorem signSession_eq_some {token : JsString} : signSession platform secret payload = some token ↔
    ∃ mac, platform.hmac (encodeUtf8 secret)
        (encodeUtf8 (b64urlEncode (encodeUtf8 (platform.stringify payload.json)))) = some mac ∧
      token = b64urlEncode (encodeUtf8 (platform.stringify payload.json)) ++
        dot :: b64urlEncode mac := by
  rw [signSession, Option.bind_eq_bind, Option.bind_eq_some_iff]
  constructor
  · rintro ⟨mac, signed, made⟩
    exact ⟨mac, signed, (Option.some.inj made).symm⟩
  · rintro ⟨mac, signed, rfl⟩
    exact ⟨mac, signed, rfl⟩

/-- A token has no character which a cookie header cuts or trims. -/
theorem signSession_plain {token : JsString}
    (signed : signSession platform secret payload = some token) :
    token ≠ [] ∧ ∀ unit ∈ token, isWhiteSpace unit = false ∧ unit ≠ 0x3b := by
  obtain ⟨mac, -, rfl⟩ := signSession_eq_some.mp signed
  refine ⟨by simp, fun unit mem => ?_⟩
  obtain body | rfl | sig := by simpa using mem
  · exact ⟨(encoded_plain body).1, (encoded_plain body).2.1⟩
  · decide
  · exact ⟨(encoded_plain sig).1, (encoded_plain sig).2.1⟩

variable [LT N] [DecidableLT N] {now : N}

end

end SlotBooking
