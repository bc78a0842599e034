import SlotBooking.Security.Session

/-! The login of the staff, and how long it lasts. -/
namespace SlotBooking

def loginTtlSeconds : Int := 8 * 60 * 60

/-- `sessionCookieHeader`. -/
def sessionCookieHeader (token : JsString) (ttlSeconds : Int) : JsString :=
  [0x3b, 0x20].intercalate
    [cookieName ++ 0x3d :: token, jsString "HttpOnly", jsString "Secure",
      jsString "SameSite=Strict", jsString "Path=/",
      jsString "Max-Age=" ++ jsString (toString ttlSeconds)]

/-- The body and the cookie of the answer. -/
structure LoginReply where
  token : JsString
  expiresIn : Int
  setCookie : JsString

section
variable (platform : SessionPlatform Int) (signStaffJwt : JsString → Int → JsString) (env : Env)

/-- `exp` of the payload is in milliseconds of the epoch. -/
def loginPayload (now : Int) : SessionPayload Int :=
  ⟨now + loginTtlSeconds * 1000, [jsString "operate-queue"]⟩

def decodeLoginBody (raw : Json) : Except FailResponse JsString := do
  let members ← raw.members
  requiredField members "password" Json.string?

/-- `POST /api/v1/staff/login`; no value where the platform refuses the key. -/
def handleStaffLogin (now : Int) (request : HttpRequest) : Option (Except FailResponse LoginReply) :=
  match env.staffSessionSecret with
  | none | some [] => some (.error
      { status := 503, tag := "MissingStaffCapability", code := "E_VAL_MISSING_STAFF_CAPABILITY" })
  | some secret =>
    match parseJsonBody request.body >>= decodeLoginBody with
    | .error response => some (.error response)
    | .ok password =>
      if !timingSafeEqual password secret then some (.error
        { status := 401, tag := "MissingStaffCapability", code := "E_VAL_MISSING_STAFF_CAPABILITY" })
      else do
        let cookie ← signSession platform secret (loginPayload now)
        return .ok
          { token := signStaffJwt secret loginTtlSeconds
            expiresIn := loginTtlSeconds
            setCookie := sessionCookieHeader cookie loginTtlSeconds }

/-- The bindings as they answer at a time: sessions are verified by the platform. -/
def Env.atTime (now : Int) : Env :=
  { env with
    verifySession := fun secret cookie =>
      (SlotBooking.verifySession platform secret cookie now).any (fun verified => verified.isOk) }

end

/-- The name and the value which a browser keeps of a `Set-Cookie` header. -/
def storedCookie (setCookie : JsString) : JsString := setCookie.takeWhile (· ≠ 0x3b)

/-- The request sends the cookie on, perhaps among others, but before any of its name, and presents
nothing else that the guard accepts. -/
structure SendsCookie (env : Env) (setCookie : JsString) (request : HttpRequest) : Prop where
  cookie : ∃ before lead trail after, request.header "cookie" =
      some ([0x3b].intercalate (before ++ (lead ++ storedCookie setCookie ++ trail) :: after)) ∧
    (∀ segment ∈ before ++ after, 0x3b ∉ segment) ∧
    (∀ segment ∈ before, cookieNameOf segment ≠ cookieName) ∧
    ∀ unit ∈ lead ++ trail, isWhiteSpace unit = true
  alone : ∀ secret, env.staffSessionSecret = some secret →
    acceptsHeaderToken secret request = false ∧ acceptsBearer env secret request = false

/-- The body of the request gives the secret, as far as it has an encoding. -/
def KnowsSecret (env : Env) (request : HttpRequest) : Prop :=
  ∃ secret members password, env.staffSessionSecret = some secret ∧ secret ≠ [] ∧
    request.body = .json (.object members) ∧
    (members.lookup "password").bind Json.string? = some password ∧
    usvString password = usvString secret

section
variable {platform : SessionPlatform Int} {signStaffJwt : JsString → Int → JsString} {env : Env}
  {start now : Int} {login request : HttpRequest} {secret token : JsString} {reply : LoginReply}

/-- Who gets a cookie, and which. -/
theorem handleStaffLogin_ok :
    handleStaffLogin platform signStaffJwt env start login = some (.ok reply) ↔
      KnowsSecret env login ∧ ∃ secret token, env.staffSessionSecret = some secret ∧
        signSession platform secret (loginPayload start) = some token ∧
        reply = ⟨signStaffJwt secret loginTtlSeconds, loginTtlSeconds,
          sessionCookieHeader token loginTtlSeconds⟩ := by
  constructor
  · intro loggedIn
    unfold handleStaffLogin at loggedIn
    split at loggedIn
    · cases loggedIn
    · cases loggedIn
    rename_i secret filled set
    split at loggedIn
    · cases loggedIn
    rename_i password read
    split at loggedIn
    · cases loggedIn
    rename_i same
    simp only [Effect.except_bind_eq_ok, decodeLoginBody, members_ok, requiredField_ok] at read
    obtain ⟨raw, parsed, members, rfl, given⟩ := read
    obtain ⟨token, signed, made⟩ := Option.bind_eq_some_iff.mp loggedIn
    refine ⟨⟨secret, members, password, set, filled, parseJsonBody_ok.mp parsed, given, ?_⟩,
      secret, token, set, signed, (Except.ok.inj (Option.some.inj made)).symm⟩
    exact timingSafeEqual_iff.mp (by simpa using same)
  · rintro ⟨⟨secret, members, password, set, filled, body, given, same⟩, secret', token, set',
      signed, rfl⟩
    obtain rfl : secret = secret' := Option.some.inj (set.symm.trans set')
    have read : (parseJsonBody login.body >>= decodeLoginBody) = .ok password := by
      simp only [Effect.except_bind_eq_ok, decodeLoginBody, members_ok, requiredField_ok]
      exact ⟨_, parseJsonBody_ok.mpr body, members, rfl, given⟩
    obtain ⟨unit, rest, rfl⟩ := List.exists_cons_of_ne_nil filled
    simp only [handleStaffLogin, set, read, timingSafeEqual_iff.mpr same, signed]
    rfl

/-- A token is written in characters which a browser keeps. -/
theorem storedCookie_header (plain : ∀ unit ∈ token, unit ≠ 0x3b) (ttl : Int) :
    storedCookie (sessionCookieHeader token ttl) = cookieName ++ 0x3d :: token := by
  have whole : ∀ unit ∈ cookieName ++ 0x3d :: token, decide (unit ≠ 0x3b) = true := by
    intro unit mem
    rcases List.mem_append.mp mem with name | value
    · exact decide_eq_true (fun same => cookieName_plain.2 (same ▸ name))
    · rcases List.mem_cons.mp value with rfl | value
      · decide
      · exact decide_eq_true (plain unit value)
  rw [storedCookie, sessionCookieHeader, List.intercalate_cons_cons, List.append_assoc,
    List.takeWhile_append_of_pos whole]
  simp

/-- What is sent on is read back as the token that was signed. -/
theorem SendsCookie.read {ttl : Int} (sends : SendsCookie env (sessionCookieHeader token ttl) request)
    (some_ : token ≠ []) (plain : ∀ unit ∈ token, isWhiteSpace unit = false ∧ unit ≠ 0x3b) :
    readSessionCookie (request.header "cookie") = some token := by
  obtain ⟨before, lead, trail, after, sent, whole, others, blank⟩ := sends.cookie
  rw [sent]
  refine readSessionCookie_first some_ plain ⟨before, lead, trail, after, ?_, whole, others, blank⟩
  rw [storedCookie_header (fun unit mem => (plain unit mem).2)]

/-- Of a token which was signed nothing but the time is left to check. -/
theorem verifySession_token {payload : SessionPayload Int} (back : platform.ReadsBack payload)
    (signed : signSession platform secret payload = some token) :
    verifySession platform secret token now = some (readPayload now payload.json) := by
  obtain ⟨mac, mac_eq, rfl⟩ := signSession_eq_some.mp signed
  have plain : dot ∉ b64urlEncode mac := fun mem => (encoded_plain mem).2.2.1 rfl
  have split := Separator.splitLast_append plain
    (b64urlEncode (encodeUtf8 (platform.stringify payload.json)))
  have passed := timingSafeEqual_encoded.mpr (rfl : b64urlEncode mac = b64urlEncode mac)
  have read : (b64urlDecode (b64urlEncode (encodeUtf8 (platform.stringify payload.json)))).bind
      (fun raw => platform.parse (platform.decodeUtf8 raw)) = some payload.json := by
    rw [b64urlDecode_eq, b64urlEncode_eq, base64UrlToBytes_urlDigits, Option.bind_some,
      back.decodes, back.parses]
  have filled := encoded_ne_nil (encodeUtf8_ne_nil back.shown)
  unfold verifySession
  rw [split]
  split
  · rename_i none_
    cases none_
  · rename_i empty
    exact absurd (congrArg Prod.fst (Option.some.inj empty)) filled
  · rename_i body presented _ parts
    cases parts
    simp [mac_eq, passed, read]

theorem readPayload_until {payload : SessionPayload Int} :
    (readPayload now payload.json).isOk = decide (now ≤ payload.exp) := by
  have sub : payload.json.property (jsString "sub") = some (.string (jsString "staff")) := rfl
  have exp : payload.json.property (jsString "exp") = some (.number payload.exp) := rfl
  by_cases late : payload.exp < now
  · simp [readPayload, sub, exp, late, Except.isOk, Except.toBool]
  · simp [readPayload, sub, exp, late, Except.isOk, Except.toBool, not_lt.mp late]

end

/-- Whoever knows the secret gets a cookie, nobody else does; and for eight hours, to the
millisecond, a request which sends the cookie on is one of the staff. -/
theorem login_lasts (platform : SessionPlatform Int) (signStaffJwt : JsString → Int → JsString)
    (env : Env) (start : Int) (back : platform.ReadsBack (loginPayload start))
    (signs : ∀ key text, key ≠ [] → platform.hmac key text ≠ none) (login : HttpRequest) :
    ((∃ reply, handleStaffLogin platform signStaffJwt env start login = some (.ok reply)) ↔
      KnowsSecret env login) ∧
    ∀ reply, handleStaffLogin platform signStaffJwt env start login = some (.ok reply) →
      ∀ now request, SendsCookie env reply.setCookie request →
        requireStaff (env.atTime platform now) request =
          if now ≤ start + 8 * 60 * 60 * 1000 then .ok ()
          else .error (.missingStaffCapability 401 "wrong_kind") := by
  constructor
  · constructor
    · rintro ⟨reply, loggedIn⟩
      exact (handleStaffLogin_ok.mp loggedIn).1
    · intro knows
      obtain ⟨secret, _, _, set, filled, _⟩ := id knows
      obtain ⟨token, signed⟩ : ∃ token,
          signSession platform secret (loginPayload start) = some token := by
        obtain ⟨mac, mac_eq⟩ := Option.ne_none_iff_exists'.mp (signs (encodeUtf8 secret)
          (encodeUtf8 (b64urlEncode (encodeUtf8 (platform.stringify (loginPayload start).json))))
          (encodeUtf8_ne_nil filled))
        exact ⟨_, signSession_eq_some.mpr ⟨mac, mac_eq, rfl⟩⟩
      exact ⟨_, handleStaffLogin_ok.mpr ⟨knows, secret, token, set, signed, rfl⟩⟩
  · intro reply loggedIn now request sends
    obtain ⟨⟨secret, _, _, set, filled, _⟩, secret', token, set', signed, rfl⟩ :=
      handleStaffLogin_ok.mp loggedIn
    obtain rfl : secret = secret' := Option.some.inj (set.symm.trans set')
    obtain ⟨some_, plain⟩ := signSession_plain signed
    have read := sends.read some_ plain
    obtain ⟨noToken, noBearer⟩ := sends.alone secret set
    have verified : acceptsCookie (env.atTime platform now) secret request =
        decide (now ≤ start + 8 * 60 * 60 * 1000) := by
      simp only [acceptsCookie, read, Env.atTime, verifySession_token back signed]
      exact readPayload_until
    have reason : rejectionReason request = "wrong_kind" := by
      simp [rejectionReason, read]
    have bearer : acceptsBearer (env.atTime platform now) secret request = false := noBearer
    obtain ⟨unit, rest, rfl⟩ := List.exists_cons_of_ne_nil filled
    have set_ : (env.atTime platform now).staffSessionSecret = some (unit :: rest) := set
    simp only [requireStaff, set_, noToken, bearer, verified, reason]
    simp

namespace Sample

def shiftText : JsString := jsString
  "\x7b\"sub\":\"staff\",\"exp\":4000000000000,\"capabilities\":[\"operate-queue\"]\x7d"

/-- The platform at the payload of one shift, with its HMAC-SHA256 under the key `secret`. -/
def shiftPlatform : SessionPlatform Int where
  hmac _ _ := some [11, 152, 45, 212, 240, 108, 202, 253, 208, 43, 220, 116, 32, 12, 218, 146, 230,
    139, 27, 104, 9, 242, 136, 110, 145, 107, 130, 80, 255, 169, 193, 82]
  stringify _ := shiftText
  parse text := if text = shiftText then some (loginPayload 3999971200000).json else none
  decodeUtf8 raw := raw.map (fun byte => UInt16.ofNat byte.toNat)

def shiftToken : String :=
  "eyJzdWIiOiJzdGFmZiIsImV4cCI6NDAwMDAwMDAwMDAwMCwiY2FwYWJpbGl0aWVzIjpbIm9wZXJhdGUtcXVldWUiXX0." ++
    "C5gt1PBsyv3QK9x0IAzakuaLG2gJ8ohukWuCUP-pwVI"

def shiftLogin : HttpRequest :=
  asking "" "accept" "" (.json (.object [("password", .string (jsString "secret"))]))

def onShift : HttpRequest :=
  asking "" "cookie" ("theme=dark; __Host-staff_session=" ++ shiftToken) .empty

end Sample

theorem login_lasts_shift :
    requireStaff ((Sample.env (some (jsString "secret"))).atTime Sample.shiftPlatform
        4000000000000) Sample.onShift = .ok () ∧
      requireStaff ((Sample.env (some (jsString "secret"))).atTime Sample.shiftPlatform
        4000000000001) Sample.onShift = .error (.missingStaffCapability 401 "wrong_kind") := by
  obtain ⟨-, lasts⟩ := login_lasts Sample.shiftPlatform (fun _ _ => jsString "jwt")
    (Sample.env (some (jsString "secret"))) 3999971200000
    ⟨by decide, by decide +kernel, by simp [Sample.shiftPlatform]⟩ nofun Sample.shiftLogin
  have knows : KnowsSecret (Sample.env (some (jsString "secret"))) Sample.shiftLogin :=
    ⟨jsString "secret", _, jsString "secret", rfl, by decide, rfl, rfl, rfl⟩
  have signed : signSession Sample.shiftPlatform (jsString "secret") (loginPayload 3999971200000) =
      some (jsString Sample.shiftToken) := by decide +kernel
  have loggedIn : handleStaffLogin Sample.shiftPlatform (fun _ _ => jsString "jwt")
      (Sample.env (some (jsString "secret"))) 3999971200000 Sample.shiftLogin =
        some (.ok ⟨jsString "jwt", loginTtlSeconds,
          sessionCookieHeader (jsString Sample.shiftToken) loginTtlSeconds⟩) :=
    handleStaffLogin_ok.mpr ⟨knows, jsString "secret", _, rfl, signed, rfl⟩
  have plain := (signSession_plain signed).2
  have sends : SendsCookie (Sample.env (some (jsString "secret")))
      (sessionCookieHeader (jsString Sample.shiftToken) loginTtlSeconds) Sample.onShift := by
    refine ⟨⟨[jsString "theme=dark"], [0x20], [], [], ?_, List.forall_mem_singleton.mpr (by decide),
      List.forall_mem_singleton.mpr (by decide), List.forall_mem_singleton.mpr (by decide)⟩,
      fun secret set => ⟨rfl, rfl⟩⟩
    rw [storedCookie_header (fun unit mem => (plain unit mem).2)]
    decide +kernel
  exact ⟨lasts _ loggedIn _ _ sends, lasts _ loggedIn _ _ sends⟩

end SlotBooking
