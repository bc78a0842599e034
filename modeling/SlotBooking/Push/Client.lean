import SlotBooking.Push.Payload
import SlotBooking.Security.Session
import SlotBooking.Shop.Subscriptions
import SlotBooking.Web.ServiceWorker

/-! One push on its way from the shop to the notification: the message is encrypted for the browser,
and a signed token tells the push service who sends it. JSON, URLs and the signatures belong to the
platform and are parameters. -/
namespace SlotBooking

/-- A private key of P-256 as the platform writes it; type and curve are always the same. -/
structure EcJwk where
  d : JsString
  x : JsString
  y : JsString

/-- Signing keys `S`; a signature takes a new random number `R`. -/
structure VapidPlatform (S R : Type) where
  stringify : JsonValue → JsString
  parse : JsString → Option JsonValue
  decodeUtf8 : List UInt8 → JsString
  parseUrl : JsString → Option Url
  importKey : EcJwk → Option S
  sign : S → R → List UInt8 → List UInt8
  verify : List UInt8 → List UInt8 → List UInt8 → Bool

/-- A string as the heap of JavaScript holds it. -/
def codeUnits (s : String) : JsString := s.toList.flatMap utf16

structure VapidKeyPair where
  publicKeyBase64Url : JsString
  privateKeyBase64Url : JsString

structure PushRequest where
  endpoint : String
  authorization : JsString
  contentEncoding : String
  contentType : String
  ttl : String
  body : List UInt8

def vapidExpHardCapSeconds : Int := 24 * 60 * 60
def vapidExpDefaultSeconds : Int := 12 * 60 * 60

/-! ### The sender -/

/-- The key pair has been exported as one JWK. -/
def generateVapidKeyPair (jwk : EcJwk) : Option VapidKeyPair := do
  let x ← base64UrlToBytes jwk.x
  let y ← base64UrlToBytes jwk.y
  let raw := setAt (List.replicate (1 + x.length + y.length) 0) 0 [0x04]
  let raw := setAt (setAt raw 1 x) (1 + x.length) y
  return { publicKeyBase64Url := bytesToBase64Url raw, privateKeyBase64Url := jwk.d }

def vapidAuthorizationHeader (jwt publicKeyBase64Url : JsString) : JsString :=
  jsString "vapid t=" ++ jwt ++ jsString ", k=" ++ publicKeyBase64Url

def vapidHeader : JsonValue := .object [("typ", .string "JWT"), ("alg", .string "ES256")]

def vapidClaims (audience subject : String) (exp : Int) : JsonValue :=
  .object [("aud", .string audience), ("exp", .number exp), ("sub", .string subject)]

section
variable {K P S R : Type} (push : PushPlatform K P) (vapid : VapidPlatform S R)

def importPrivateKey (keys : VapidKeyPair) : Option S := do
  let pubRaw ← base64UrlToBytes keys.publicKeyBase64Url
  if pubRaw.length ≠ 65 ∨ pubRaw[0]? ≠ some 0x04 then none
  else
    let x := bytesToBase64Url ((pubRaw.take 33).drop 1)
    let y := bytesToBase64Url ((pubRaw.take 65).drop 33)
    vapid.importKey { d := keys.privateKeyBase64Url, x, y }

/-- No value where it throws. -/
def signVapidJwt (audience subject : String) (keys : VapidKeyPair) (expirySeconds : Option Int)
    (now : Int) (random : R) : Option JsString := do
  let requested := expirySeconds.getD vapidExpDefaultSeconds
  let exp := now + min requested vapidExpHardCapSeconds
  let headerSegment := bytesToBase64Url (encodeUtf8 (vapid.stringify vapidHeader))
  let payloadSegment := bytesToBase64Url
    (encodeUtf8 (vapid.stringify (vapidClaims audience subject exp)))
  let signingInput := headerSegment ++ dot :: payloadSegment
  let privateKey ← importPrivateKey vapid keys
  let sig := vapid.sign privateKey random (encodeUtf8 signingInput)
  return signingInput ++ dot :: bytesToBase64Url sig

def audienceOf (endpoint : String) : Option String :=
  (vapid.parseUrl (codeUnits endpoint)).map (fun url => url.protocol ++ "//" ++ url.host)

/-- What is drawn at random for one push. -/
structure PushRandom (K R : Type) where
  ephemeral : K
  salt : List UInt8
  signature : R

/-- What is posted, unless something throws before. -/
def pushRequest (subscription : PushSubscription) (payload : List UInt8) (keys : VapidKeyPair)
    (subject : String) (ttl : Option Nat) (now : Int) (random : PushRandom K R) :
    Option PushRequest := do
  let encrypted ← encryptPayload push payload
    ⟨codeUnits subscription.p256dh, codeUnits subscription.auth⟩ random.ephemeral random.salt
  let audience ← audienceOf vapid subscription.endpoint
  let jwt ← signVapidJwt vapid audience subject keys none now random.signature
  return {
    endpoint := subscription.endpoint
    authorization := vapidAuthorizationHeader jwt keys.publicKeyBase64Url
    contentEncoding := "aes128gcm"
    contentType := "application/octet-stream"
    ttl := toString (ttl.getD 60)
    body := encrypted.body }

/-- `fetch` answers with a status or throws. -/
def sendPush (fetch : PushRequest → Option Nat) (subscription : PushSubscription)
    (payload : List UInt8) (keys : VapidKeyPair) (subject : String) (ttl : Option Nat) (now : Int)
    (random : PushRandom K R) : SendPushResult :=
  match pushRequest push vapid subscription payload keys subject ttl now random with
  | none => .transportError
  | some request =>
    match fetch request with
    | none => .transportError
    | some status =>
      if status = 404 ∨ status = 410 then .subscriptionGone
      else if 200 ≤ status ∧ status < 300 then .delivered
      else .rejected

/-! ### The push service and the browser, as the standards have them -/

/-- One of the parameters between the commas. -/
def vapidParam (name : UInt16) (params : JsString) : Option JsString :=
  ((params.splitOn 0x2c).map trim).findSome?
    (fun param => if [name, 0x3d].isPrefixOf param then some (param.drop 2) else none)

def readSegment (segment : JsString) : Option JsonValue :=
  (base64UrlToBytes segment).bind (fun raw => vapid.parse (vapid.decodeUtf8 raw))

/-- The token is meant for this origin, runs for a day at most, and is signed by the key beside. -/
def admitsToken (origin : String) (now : Int) (jwt key : JsString) : Option Bool :=
  match jwt.splitOn dot with
  | [headerSegment, payloadSegment, sigSegment] => do
    let header ← readSegment vapid headerSegment
    let claims ← readSegment vapid payloadSegment
    let alg ← (header.member "alg").bind JsonValue.string?
    let aud ← (claims.member "aud").bind JsonValue.string?
    let exp ← (claims.member "exp").bind JsonValue.number?
    let point ← base64UrlToBytes key
    let sig ← base64UrlToBytes sigSegment
    return alg = "ES256" && aud = origin && now ≤ exp && exp ≤ now + 24 * 60 * 60 &&
      vapid.verify point (encodeUtf8 (headerSegment ++ dot :: payloadSegment)) sig
  | _ => none

def admits (origin : String) (now : Int) (authorization : JsString) : Bool :=
  if (jsString "vapid ").isPrefixOf authorization then
    let params := authorization.drop 6
    (do
      let jwt ← vapidParam 0x74 params
      let key ← vapidParam 0x6b params
      admitsToken vapid origin now jwt key).getD false
  else false

/-- Its answer to a message of its own origin. -/
def pushService (origin : String) (now : Int) (request : PushRequest) : Option Nat :=
  some (if admits vapid origin now request.authorization then 201 else 403)

/-- `event.data` of the push event, whose bytes were decrypted before. -/
def pushData (bytes : List UInt8) : PushData :=
  match vapid.parse (vapid.decodeUtf8 bytes) with
  | none => .malformed
  | some value => .json value

/-- The JSON text of a value, as bytes, is read back as the value. -/
structure VapidPlatform.Reads (vapid : VapidPlatform S R) (value : JsonValue) : Prop where
  decodes : vapid.decodeUtf8 (encodeUtf8 (vapid.stringify value)) = vapid.stringify value
  parses : vapid.parse (vapid.stringify value) = some value

/-- What is published of a key pair which the platform has generated: the coordinates of the public
point, and that its signatures are verified. -/
structure VapidPlatform.Exports (vapid : VapidPlatform S R) (jwk : EcJwk) (x y : List UInt8)
    (key : S) : Prop where
  encodedX : jwk.x = bytesToBase64Url x
  encodedY : jwk.y = bytesToBase64Url y
  lengthX : x.length = 32
  lengthY : y.length = 32
  imports : vapid.importKey jwk = some key
  verifies : ∀ random data, vapid.verify (0x04 :: x ++ y) data (vapid.sign key random data) = true

end

/-! ### Characters of a token -/

theorem base64Url_plain {bytes : List UInt8} {unit : UInt16} (mem : unit ∈ bytesToBase64Url bytes) :
    isWhiteSpace unit = false ∧ unit ≠ 0x2c ∧ unit ≠ dot := by
  have comma : ∀ n < 64, urlDigit n ≠ 0x2c := by decide
  rw [bytesToBase64Url_eq] at mem
  obtain ⟨n, inside, rfl⟩ := List.mem_map.mp mem
  have small := Base64.sextets_lt bytes n inside
  exact ⟨(urlDigit_plain small).1, comma n small, (urlDigit_plain small).2.2.1⟩

theorem base64UrlToBytes_bytesToBase64Url (bytes : List UInt8) :
    base64UrlToBytes (bytesToBase64Url bytes) = some bytes := by
  rw [bytesToBase64Url_eq, base64UrlToBytes_urlDigits]

theorem trim_plain {s : JsString} (plain : ∀ unit ∈ s, isWhiteSpace unit = false) : trim s = s :=
  trim_eq_self_iff.mpr ⟨fun _ first => plain _ (List.mem_of_mem_head? first),
    fun _ last => plain _ (List.mem_of_getLast? last)⟩

/-- Both parameters are found in the header which the sender writes. -/
theorem vapidParam_header {jwt key : JsString}
    (plainJwt : ∀ unit ∈ jwt, isWhiteSpace unit = false ∧ unit ≠ 0x2c)
    (plainKey : ∀ unit ∈ key, isWhiteSpace unit = false ∧ unit ≠ 0x2c) :
    vapidParam 0x74 (0x74 :: 0x3d :: jwt ++ 0x2c :: 0x20 :: 0x6b :: 0x3d :: key) = some jwt ∧
      vapidParam 0x6b (0x74 :: 0x3d :: jwt ++ 0x2c :: 0x20 :: 0x6b :: 0x3d :: key) = some key := by
  have first : 0x2c ∉ 0x74 :: 0x3d :: jwt := by
    simp only [List.mem_cons, not_or]
    exact ⟨by decide, by decide, fun mem => (plainJwt _ mem).2 rfl⟩
  have second : 0x2c ∉ 0x20 :: 0x6b :: 0x3d :: key := by
    simp only [List.mem_cons, not_or]
    exact ⟨by decide, by decide, by decide, fun mem => (plainKey _ mem).2 rfl⟩
  have split : (0x74 :: 0x3d :: jwt ++ 0x2c :: 0x20 :: 0x6b :: 0x3d :: key).splitOn 0x2c =
      [0x74 :: 0x3d :: jwt, 0x20 :: 0x6b :: 0x3d :: key] := by
    have cut := List.splitOn_intercalate 0x2c
      (List.forall_mem_cons.mpr ⟨first, List.forall_mem_singleton.mpr second⟩) (by simp)
    rwa [List.intercalate_cons_cons, List.intercalate_singleton, List.append_assoc] at cut
  have trimJwt : trim (0x74 :: 0x3d :: jwt) = 0x74 :: 0x3d :: jwt := by
    refine trim_plain ?_
    simp only [List.forall_mem_cons]
    exact ⟨by decide, by decide, fun _ mem => (plainJwt _ mem).1⟩
  have trimKey : trim (0x20 :: 0x6b :: 0x3d :: key) = 0x6b :: 0x3d :: key := by
    have same : trim (0x6b :: 0x3d :: key) = 0x6b :: 0x3d :: key := by
      refine trim_plain ?_
      simp only [List.forall_mem_cons]
      exact ⟨by decide, by decide, fun _ mem => (plainKey _ mem).1⟩
    have cut := trim_between (List.cons_ne_nil _ _) same
      (List.forall_mem_singleton.mpr (show isWhiteSpace 0x20 = true by decide))
      (List.forall_mem_nil (fun unit => isWhiteSpace unit = true))
    rwa [List.append_nil] at cut
  constructor
  · rw [vapidParam, split]
    simp [trimJwt]
  · rw [vapidParam, split]
    simp [trimJwt, trimKey]

/-! ### The sender's keys -/

section
variable {K P S R : Type} {push : PushPlatform K P} {vapid : VapidPlatform S R} {jwk : EcJwk}
  {x y : List UInt8} {key : S}

/-- The public key is the uncompressed point. -/
theorem generateVapidKeyPair_eq (exports : vapid.Exports jwk x y key) :
    generateVapidKeyPair jwk =
      some ⟨bytesToBase64Url (0x04 :: x ++ y), jwk.d⟩ := by
  have filled : setAt (setAt (setAt (List.replicate (1 + x.length + y.length) 0) 0 [0x04]) 1 x)
      (1 + x.length) y = 0x04 :: x ++ y := by
    have all := congrArg Prod.fst (foldl_setAt [[0x04], x, y] [] 0)
    simpa [Nat.add_comm 1, Nat.add_assoc, Nat.add_left_comm] using all
  simp only [generateVapidKeyPair, exports.encodedX, exports.encodedY,
    base64UrlToBytes_bytesToBase64Url, Option.bind_eq_bind, Option.bind_some, filled]
  rfl

/-- The coordinates are cut back out of it. -/
theorem importPrivateKey_eq (exports : vapid.Exports jwk x y key) :
    importPrivateKey vapid ⟨bytesToBase64Url (0x04 :: x ++ y), jwk.d⟩ = some key := by
  have length : (0x04 :: x ++ y).length = 65 := by
    simp [exports.lengthX, exports.lengthY]
  have cutX : ((0x04 :: x ++ y).take 33).drop 1 = x := by
    simp [exports.lengthX]
  have cutY : ((0x04 :: x ++ y).take 65).drop 33 = y := by
    rw [List.take_of_length_le (Nat.le_of_eq length)]
    simp [exports.lengthX]
  obtain ⟨d, _, _⟩ := jwk
  obtain ⟨rfl, rfl⟩ := And.intro exports.encodedX exports.encodedY
  rw [importPrivateKey, base64UrlToBytes_bytesToBase64Url]
  simp only [Option.bind_eq_bind, Option.bind_some, length, cutX, cutY]
  exact exports.imports

/-! ### The token -/

variable (vapid) in
def segmentOf (value : JsonValue) : JsString := bytesToBase64Url (encodeUtf8 (vapid.stringify value))

variable (vapid key) in
/-- The token of these claims. -/
def tokenOf (claims : JsonValue) (random : R) : JsString :=
  segmentOf vapid vapidHeader ++ dot :: segmentOf vapid claims ++ dot ::
    bytesToBase64Url (vapid.sign key random
      (encodeUtf8 (segmentOf vapid vapidHeader ++ dot :: segmentOf vapid claims)))

variable {audience subject : String} {expirySeconds : Option Int} {now : Int} {random : R}

/-- However long it is wanted for, the token runs for a day at most. -/
theorem signVapidJwt_eq (exports : vapid.Exports jwk x y key) :
    signVapidJwt vapid audience subject ⟨bytesToBase64Url (0x04 :: x ++ y), jwk.d⟩ expirySeconds now
        random = some (tokenOf vapid key (vapidClaims audience subject
          (now + min (expirySeconds.getD (12 * 60 * 60)) (24 * 60 * 60))) random) := by
  simp only [signVapidJwt, importPrivateKey_eq exports, Option.bind_eq_bind, Option.bind_some]
  rfl

theorem tokenOf_plain {claims : JsonValue} :
    ∀ unit ∈ tokenOf vapid key claims random, isWhiteSpace unit = false ∧ unit ≠ 0x2c := by
  have dot_ : isWhiteSpace dot = false ∧ dot ≠ 0x2c := by decide
  have segment : ∀ bytes, ∀ unit ∈ bytesToBase64Url bytes, isWhiteSpace unit = false ∧ unit ≠ 0x2c :=
    fun _ _ mem => ⟨(base64Url_plain mem).1, (base64Url_plain mem).2.1⟩
  simp only [tokenOf, segmentOf, List.forall_mem_append, List.forall_mem_cons]
  exact ⟨⟨segment _, dot_, segment _⟩, dot_, segment _⟩

/-- The dots are where the segments meet, and nowhere else. -/
theorem splitOn_tokenOf (claims : JsonValue) : (tokenOf vapid key claims random).splitOn dot =
    [segmentOf vapid vapidHeader, segmentOf vapid claims, bytesToBase64Url (vapid.sign key random
      (encodeUtf8 (segmentOf vapid vapidHeader ++ dot :: segmentOf vapid claims)))] := by
  have whole : ∀ bytes, dot ∉ bytesToBase64Url bytes := fun _ mem => (base64Url_plain mem).2.2 rfl
  have segment : ∀ value, dot ∉ segmentOf vapid value := fun _ => whole _
  rw [tokenOf, List.append_assoc, List.cons_append,
    List.splitOn_append_cons_self_of_not_mem (segment _),
    List.splitOn_append_cons_self_of_not_mem (segment _), List.splitOn_eq_singleton (whole _)]

theorem readSegment_segmentOf {value : JsonValue} (reads : vapid.Reads value) :
    readSegment vapid (segmentOf vapid value) = some value := by
  rw [readSegment, segmentOf, base64UrlToBytes_bytesToBase64Url, Option.bind_some, reads.decodes,
    reads.parses]

/-- The push service admits the token of its own origin until it expires, and no sooner than a day
before that. -/
theorem admits_token {exp later : Int} {origin : String} (exports : vapid.Exports jwk x y key)
    (header : vapid.Reads vapidHeader) (claims : vapid.Reads (vapidClaims audience subject exp)) :
    admits vapid origin later (vapidAuthorizationHeader
        (tokenOf vapid key (vapidClaims audience subject exp) random)
        (bytesToBase64Url (0x04 :: x ++ y))) =
      decide (audience = origin ∧ later ≤ exp ∧ exp ≤ later + 24 * 60 * 60) := by
  have plainKey : ∀ unit ∈ bytesToBase64Url (0x04 :: x ++ y),
      isWhiteSpace unit = false ∧ unit ≠ 0x2c :=
    fun _ mem => ⟨(base64Url_plain mem).1, (base64Url_plain mem).2.1⟩
  have split : (tokenOf vapid key (vapidClaims audience subject exp) random).splitOn dot = _ :=
    splitOn_tokenOf (vapidClaims audience subject exp)
  have plainJwt : ∀ unit ∈ tokenOf vapid key (vapidClaims audience subject exp) random,
    isWhiteSpace unit = false ∧ unit ≠ 0x2c := tokenOf_plain
  generalize tokenOf vapid key (vapidClaims audience subject exp) random = jwt at split plainJwt ⊢
  have written : vapidAuthorizationHeader jwt (bytesToBase64Url (0x04 :: x ++ y)) =
      jsString "vapid " ++
        (0x74 :: 0x3d :: jwt ++ 0x2c :: 0x20 :: 0x6b :: 0x3d :: bytesToBase64Url (0x04 :: x ++ y)) := by
    have lead : jsString "vapid t=" = jsString "vapid " ++ [0x74, 0x3d] := by decide
    have sep : jsString ", k=" = [0x2c, 0x20, 0x6b, 0x3d] := by decide
    rw [vapidAuthorizationHeader, lead, sep]
    simp
  obtain ⟨t, k⟩ := vapidParam_header plainJwt plainKey
  have scheme : (jsString "vapid ").length = 6 := by decide
  rw [admits, written, if_pos (by simp), ← scheme, List.drop_left]
  simp only [t, k, Option.bind_eq_bind, Option.bind_some, admitsToken, split,
    readSegment_segmentOf header, readSegment_segmentOf claims, base64UrlToBytes_bytesToBase64Url,
    exports.verifies]
  simp [vapidHeader, vapidClaims, JsonValue.member, JsonValue.string?, JsonValue.number?,
    Bool.and_assoc]

/-! ### One push -/

variable {own : K} {auth bytes : List UInt8} {subscription : PushSubscription} {origin : String}
  {draw : PushRandom K R} {ttl : Option Nat}

/-- The subscription is one of this browser. -/
abbrev PushSubscription.Belongs (push : PushPlatform K P) (own : K) (auth : List UInt8)
    (subscription : PushSubscription) : Prop :=
  ClientPublicKey.Belongs push ⟨codeUnits subscription.p256dh, codeUnits subscription.auth⟩ own auth

theorem pushRequest_eq {encrypted : EncryptedPushPayload}
    (made : encryptPayload push bytes ⟨codeUnits subscription.p256dh, codeUnits subscription.auth⟩
      draw.ephemeral draw.salt = some encrypted)
    (exports : vapid.Exports jwk x y key)
    (origin_ : audienceOf vapid subscription.endpoint = some origin) :
    pushRequest push vapid subscription bytes ⟨bytesToBase64Url (0x04 :: x ++ y), jwk.d⟩ subject ttl
        now draw = some {
      endpoint := subscription.endpoint
      authorization := vapidAuthorizationHeader (tokenOf vapid key
        (vapidClaims origin subject (now + 12 * 60 * 60)) draw.signature)
        (bytesToBase64Url (0x04 :: x ++ y))
      contentEncoding := "aes128gcm"
      contentType := "application/octet-stream"
      ttl := toString (ttl.getD 60)
      body := encrypted.body } := by
  have token : signVapidJwt vapid origin subject ⟨bytesToBase64Url (0x04 :: x ++ y), jwk.d⟩ none now
      draw.signature = _ := signVapidJwt_eq exports
  simp only [pushRequest, made, origin_, token, Option.bind_eq_bind, Option.bind_some]
  rfl

theorem sendPush_within {encrypted : EncryptedPushPayload} {later : Int}
    (made : encryptPayload push bytes ⟨codeUnits subscription.p256dh, codeUnits subscription.auth⟩
      draw.ephemeral draw.salt = some encrypted)
    (exports : vapid.Exports jwk x y key)
    (origin_ : audienceOf vapid subscription.endpoint = some origin)
    (header : vapid.Reads vapidHeader)
    (claims : vapid.Reads (vapidClaims origin subject (now + 12 * 60 * 60))) :
    sendPush push vapid (pushService vapid origin later) subscription bytes
        ⟨bytesToBase64Url (0x04 :: x ++ y), jwk.d⟩ subject ttl now draw =
      if now - 12 * 60 * 60 ≤ later ∧ later ≤ now + 12 * 60 * 60 then .delivered else .rejected := by
  have admitted : admits vapid origin later (vapidAuthorizationHeader (tokenOf vapid key
      (vapidClaims origin subject (now + 12 * 60 * 60)) draw.signature)
      (bytesToBase64Url (0x04 :: x ++ y))) =
        decide (now - 12 * 60 * 60 ≤ later ∧ later ≤ now + 12 * 60 * 60) := by
    rw [admits_token exports header claims, decide_eq_decide, and_iff_right rfl]
    omega
  simp only [sendPush, pushRequest_eq made exports origin_, pushService, admitted, decide_eq_true_eq]
  by_cases within : now - 12 * 60 * 60 ≤ later ∧ later ≤ now + 12 * 60 * 60
  · simp only [within]
    rfl
  · simp only [within]
    rfl

/-- What arrives at the worker is the value which the shop has written. -/
theorem pushData_reads {value : JsonValue} (reads : vapid.Reads value) :
    pushData vapid (encodeUtf8 (vapid.stringify value)) = .json value := by
  rw [pushData, reads.decodes, reads.parses]

end

/-- Of the nudges those are shown which are the first two, or the last. -/
theorem onPush_isSome (displaySeq : Int) {n : Nat} (maxNudges : Int) (first : 1 ≤ n) :
    (onPush (.json (pushPayload displaySeq n maxNudges))).isSome = true ↔
      n ≤ 2 ∨ maxNudges ≤ n := by
  rw [onPush_pushPayload, pushKindFor]
  by_cases final : maxNudges ≤ n
  · have valid : validKinds.contains "overdue-final" = true := by decide
    rw [if_pos final, if_pos valid]
    exact iff_of_true rfl (.inr final)
  · rw [if_neg final]
    by_cases small : n ≤ 2
    · rw [if_pos ((validKinds_numbered n).mpr (by omega))]
      exact iff_of_true rfl (.inl small)
    · rw [if_neg (fun valid => absurd ((validKinds_numbered n).mp valid) (by omega))]
      exact iff_of_false (by decide) (not_or.mpr ⟨small, final⟩)

/-- From the shop to the notification: under a key pair which the platform has generated, a push for
the n-th nudge is delivered within twelve hours of when the clock of the push service should stand,
either way; the browser decrypts it; and a notification is shown for the first two nudges and the
last. -/
theorem push_shown {K P S R : Type} (push : PushPlatform K P) (vapid : VapidPlatform S R)
    (own : K) (auth x y : List UInt8) (key : S) (jwk : EcJwk) (subscription : PushSubscription)
    (subject : String) (ttl : Option Nat) (now : Int) (draw : PushRandom K R) (displaySeq : Int)
    (n : Nat) (maxNudges : Int) (url : Url) (exports : vapid.Exports jwk x y key)
    (belongs : subscription.Belongs push own auth)
    (parsed : vapid.parseUrl (codeUnits subscription.endpoint) = some url)
    (header : vapid.Reads vapidHeader)
    (claims : vapid.Reads (vapidClaims (url.protocol ++ "//" ++ url.host) subject
      (now + 12 * 60 * 60)))
    (reads : vapid.Reads (pushPayload displaySeq n maxNudges))
    (lawful : push.Lawful own draw.ephemeral
      (encodeUtf8 (vapid.stringify (pushPayload displaySeq n maxNudges)) ++ paddingDelimiter))
    (fits : (encodeUtf8 (vapid.stringify (pushPayload displaySeq n maxNudges))).length ≤ 4079)
    (salt16 : draw.salt.length = 16) (first : 1 ≤ n) :
    let payload := encodeUtf8 (vapid.stringify (pushPayload displaySeq n maxNudges))
    let origin := url.protocol ++ "//" ++ url.host
    ∃ keys request bytes, generateVapidKeyPair jwk = some keys ∧
      pushRequest push vapid subscription payload keys subject ttl now draw = some request ∧
      (∀ later, sendPush push vapid (pushService vapid origin later) subscription payload keys subject
        ttl now draw = if now - 12 * 60 * 60 ≤ later ∧ later ≤ now + 12 * 60 * 60 then .delivered
          else .rejected) ∧
      receive push own auth request.body = some bytes ∧
      ((onPush (pushData vapid bytes)).isSome = true ↔ n ≤ 2 ∨ maxNudges ≤ n) := by
  intro payload origin
  have origin_ : audienceOf vapid subscription.endpoint = some origin := by
    rw [audienceOf, parsed]
    rfl
  have made : encryptPayload push payload
      ⟨codeUnits subscription.p256dh, codeUnits subscription.auth⟩ draw.ephemeral draw.salt = _ :=
    encryptPayload_eq lawful belongs
  have posted : pushRequest push vapid subscription payload
      ⟨bytesToBase64Url (0x04 :: x ++ y), jwk.d⟩ subject ttl now draw = _ :=
    pushRequest_eq made exports origin_
  refine ⟨_, _, payload, generateVapidKeyPair_eq exports, posted, ?_, ?_, ?_⟩
  · exact fun later => sendPush_within made exports origin_ header claims
  · rw [receive_eq lawful salt16, ciphertextOf]
    exact openMessage_short (messageKeys_nonce _ _ _ _ _) lawful fits
  · rw [pushData_reads reads]
    exact onPush_isSome displaySeq maxNudges first

namespace Sample

/-- Numbers, and strings in which nothing is escaped. -/
def flatText : JsonValue → String
  | .number n => toString n
  | .string text => "\"" ++ text ++ "\""
  | _ => ""

/-- Objects of these. -/
def objectText : JsonValue → JsString
  | .object members => jsString ("\x7b" ++ ",".intercalate
      (members.map (fun (name, value) => "\"" ++ name ++ "\":" ++ flatText value)) ++ "\x7d")
  | value => jsString (flatText value)

def firstNudge : JsonValue := pushPayload 17 1 3

def shopClaims : JsonValue :=
  vapidClaims "https://fcm.googleapis.com" "mailto:shop@localhost" 1700043200

def pointX : List UInt8 :=
  [115, 219, 26, 2, 253, 233, 175, 106, 225, 29, 13, 149, 228, 248, 1, 194, 173, 13, 25, 58, 41,
   130, 134, 232, 85, 156, 192, 154, 145, 221, 114, 219]

def pointY : List UInt8 :=
  [86, 57, 106, 134, 34, 96, 228, 36, 235, 116, 3, 44, 154, 19, 0, 200, 160, 159, 184, 162, 192,
   137, 240, 70, 86, 189, 115, 213, 47, 153, 100, 49]

def shopJwk : EcJwk where
  d := jsString "9b-xYpqaS2Iwfdq7N49GxJ1RkswvI-hpQI-wYgaAEns"
  x := bytesToBase64Url pointX
  y := bytesToBase64Url pointY

/-- The signature of one token. -/
def tokenSignature : List UInt8 :=
  bytes "A7Fj9ww1VGOh577748zov8SdS45F2iCVFevjAEcsWflt3N37w06KAjF7OT33Ju31s7nvUhkMyXh8MXdWhOQpVw"

/-- The platform at the three texts of one push, and at one signature. -/
def vapidPlatform : VapidPlatform Unit Unit where
  stringify := objectText
  parse text :=
    if text = objectText vapidHeader then some vapidHeader
    else if text = objectText shopClaims then some shopClaims
    else if text = objectText firstNudge then some firstNudge
    else none
  decodeUtf8 raw := raw.map (fun byte => UInt16.ofNat byte.toNat)
  parseUrl _ := some ⟨"https:", "fcm.googleapis.com"⟩
  importKey _ := some ()
  sign _ _ _ := tokenSignature
  verify _ _ sig := sig = tokenSignature

theorem vapidPlatform_exports : vapidPlatform.Exports shopJwk pointX pointY () where
  encodedX := by simp only [shopJwk]
  encodedY := by simp only [shopJwk]
  lengthX := by decide
  lengthY := by decide
  imports := by simp only [vapidPlatform]
  verifies := by simp [vapidPlatform]

theorem texts_apart : objectText shopClaims ≠ objectText vapidHeader ∧
    objectText firstNudge ≠ objectText vapidHeader ∧
    objectText firstNudge ≠ objectText shopClaims := by decide +kernel

theorem header_reads : vapidPlatform.Reads vapidHeader :=
  ⟨by decide +kernel, by simp only [vapidPlatform, if_true]⟩

theorem claims_reads : vapidPlatform.Reads shopClaims :=
  ⟨by decide +kernel, by simp only [vapidPlatform, texts_apart, if_true, if_false]⟩

theorem nudge_reads : vapidPlatform.Reads firstNudge :=
  ⟨by decide +kernel, by simp only [vapidPlatform, texts_apart, if_true, if_false]⟩

def pushTo : PushSubscription where
  endpoint := "https://fcm.googleapis.com/fcm/send/1"
  p256dh := "BCVxsr7N_eNgVRqvHtD0zTZsEc6-VV-JvLexhqUzORcxaOzi6-AYWXvTBHm4bjyPjs7Vd8pZGH6SRpkNtoIAiw4"
  auth := "BTBZMqHH6r4Tts7J_aSIgg"

def nudgeCiphertext : List UInt8 :=
  [222, 221, 205, 23, 88, 227, 182, 52, 74, 213, 189, 234, 91, 224, 7, 80, 235, 96, 246, 177, 174,
   80, 71, 152, 199, 191, 58, 24, 136, 169, 224, 71, 245, 198, 109, 61, 50, 66, 52, 139, 1, 28, 144,
   159, 119, 141, 211, 68, 29, 142, 125, 157, 193, 67, 57, 100, 162, 229, 153]

def nudgePlatform : PushPlatform Bool Bool :=
  pushPlatform (encodeUtf8 (objectText firstNudge) ++ paddingDelimiter) nudgeCiphertext

theorem pushTo_belongs : pushTo.Belongs nudgePlatform false browserSecret := by
  have fields : codeUnits pushTo.p256dh = browser.p256dh ∧ codeUnits pushTo.auth = browser.auth := by
    decide +kernel
  constructor
  · rw [fields.1]
    exact (browser_belongs _ _).key
  · rw [fields.2]
    exact browser_decoded.2

end Sample

theorem push_shown_first :
    ∃ keys request bytes, generateVapidKeyPair Sample.shopJwk = some keys ∧
      pushRequest Sample.nudgePlatform Sample.vapidPlatform Sample.pushTo
        (encodeUtf8 (Sample.objectText Sample.firstNudge)) keys "mailto:shop@localhost" none 1700000000
        ⟨true, Sample.messageSalt, ()⟩ = some request ∧
      receive Sample.nudgePlatform false Sample.browserSecret request.body = some bytes ∧
      (onPush (pushData Sample.vapidPlatform bytes)).isSome = true := by
  have long : Sample.nudgeCiphertext.length =
      (encodeUtf8 (Sample.objectText Sample.firstNudge) ++ paddingDelimiter).length + 16 := by
    decide +kernel
  obtain ⟨keys, request, bytes, made, posted, _, received, shown⟩ := push_shown
    Sample.nudgePlatform Sample.vapidPlatform false Sample.browserSecret Sample.pointX Sample.pointY ()
    Sample.shopJwk Sample.pushTo "mailto:shop@localhost" none 1700000000
    ⟨true, Sample.messageSalt, ()⟩ 17 1 3 ⟨"https:", "fcm.googleapis.com"⟩
    Sample.vapidPlatform_exports Sample.pushTo_belongs rfl Sample.header_reads Sample.claims_reads
    Sample.nudge_reads (Sample.pushPlatform_lawful long) (by decide +kernel) rfl (by decide)
  exact ⟨keys, request, bytes, made, posted, received, shown.mpr (.inl (by decide))⟩

end SlotBooking
