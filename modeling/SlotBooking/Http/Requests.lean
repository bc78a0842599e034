import SlotBooking.Shop.Boundary

/-! HTTP requests as the routes read them, and the schemas of their bodies. Paths are matched,
percent signs decoded and JSON texts parsed before. -/
namespace SlotBooking

/-! ### Strings -/

/-- A literal of the source. -/
def jsString (s : String) : JsString := s.toList.map (fun c => UInt16.ofNat c.toNat)

def scalarValue (unit : UInt16) : Char :=
  if isHighSurrogate unit || isLowSurrogate unit then Char.ofNat 0xfffd else Char.ofNat unit.toNat

/-- Surrogate pairs become one scalar value, lone surrogates U+FFFD. -/
def scalarValues : JsString → List Char
  | [] => []
  | [a] => [scalarValue a]
  | a :: b :: rest =>
    if isHighSurrogate a && isLowSurrogate b then
      Char.ofNat (0x10000 + (a.toNat - 0xd800) * 0x400 + (b.toNat - 0xdc00)) :: scalarValues rest
    else scalarValue a :: scalarValues (b :: rest)

/-- What leaves the JavaScript heap of a string. -/
def usvString (s : JsString) : String := String.ofList (scalarValues s)

/-! ### Ids -/

def suffixDigit (unit : UInt16) : Option Nat :=
  if isDigit unit then some (unit.toNat - 0x30)
  else if 0x61 ≤ unit && unit ≤ 0x7a then some (unit.toNat - 0x61 + 10)
  else none

def suffixNumber (digits : List Nat) : Nat := digits.foldl (fun n d => 36 * n + d) 0

/-- `decodeTicketIdParam`: the pattern `^tkt_[0-9a-z]{26}$`. -/
def decodeTicketId (s : JsString) : Option TicketId :=
  if s.take 4 = jsString "tkt_" && s.length = 30 then
    ((s.drop 4).mapM suffixDigit).map (fun digits => ⟨suffixNumber digits⟩)
  else none

/-! ### Requests -/

/-- What `JSON.parse` gives; its strings are any sequences of code units. -/
inductive Json where
  | null
  | boolean (b : Bool)
  | number (n : Int)
  | string (s : JsString)
  | array (elements : List Json)
  | object (members : List (String × Json))

/-- The text of a body: none, one that does not parse, or one that does. -/
inductive RequestBody where
  | empty
  | malformed (reason : String)
  | json (raw : Json)

/-- `id` is the segment of the path, `header` and `query` look up by name. -/
structure HttpRequest where
  id : JsString
  header : String → Option JsString
  query : String → Option JsString
  body : RequestBody

inductive RateLimitNamespace where
  | issue
  | operate
  | verify

/-- What `new URL` makes of a string. -/
structure Url where
  protocol : String
  host : String

/-- The bindings, with the answers of the platform to what is asked of it. A rate limiter that
is not bound has none; the defaults of the slots are already coerced. -/
structure Env where
  staffSessionSecret : Option JsString
  limit : RateLimitNamespace → Option Bool
  granularity : SlotGranularity
  tz : BusinessTimeZone
  capacity : Int
  verifyStaffJwt : JsString → JsString → Bool
  verifySession : JsString → JsString → Bool
  parseUrl : JsString → Option Url

/-! ### Refusals -/

structure FailResponse where
  status : Nat
  tag : String
  code : String
  reason : Option String := none
deriving DecidableEq

def FailResponse.ticketNotFound : FailResponse :=
  { status := 404, tag := "TicketNotFound", code := "E_DOM_TICKET_NOT_FOUND" }

def FailResponse.invalidBody : FailResponse :=
  { status := 422, tag := "InvalidBody", code := "E_VAL_BODY" }

def FailResponse.invalidPayload (reason : Option String) (status : Nat) : FailResponse :=
  { status, tag := "InvalidPayload", code := "E_VAL_PAYLOAD", reason }

def FailResponse.rateLimited : FailResponse :=
  { status := 429, tag := "RateLimited", code := "E_INF_RATE_LIMITED" }

/-- `FIELD_FAILURE_MAP`, and `ROOT_FAILURE` for any other field. -/
def fieldFailure : String → FailResponse
  | "ticketId" | "afterTicketId" => .ticketNotFound
  | "nameKana" => { status := 422, tag := "InvalidNameKana", code := "E_VAL_NAME_KANA" }
  | "phoneLast4" => { status := 422, tag := "InvalidPhoneLast4", code := "E_VAL_PHONE_LAST4" }
  | "freeText" => { status := 422, tag := "InvalidFreeText", code := "E_VAL_FREE_TEXT" }
  | "lane" => { status := 422, tag := "InvalidLane", code := "E_VAL_LANE" }
  | "appointmentAt" | "from" | "to" | "granularity" => .invalidPayload none 422
  | _ => .invalidBody

/-! ### Decoding -/

def rateLimitMiddleware (env : Env) (ns : RateLimitNamespace) : Except FailResponse Unit :=
  if env.limit ns = some false then .error .rateLimited else .ok ()

def pathTicketId (request : HttpRequest) : Except FailResponse TicketId :=
  match decodeTicketId request.id with
  | some ticketId => .ok ticketId
  | none => .error .ticketNotFound

def parseJsonBody : RequestBody → Except FailResponse Json
  | .json raw => .ok raw
  | .malformed reason => .error (.invalidPayload (some reason) 400)
  | .empty => .error (.invalidPayload (some "Unexpected end of JSON input") 400)

/-- With `allowEmptyBody` no text stands for `{}`. -/
def parseOptionalBody : RequestBody → Except FailResponse Json
  | .empty => .ok (.object [])
  | body => parseJsonBody body

namespace Json

def string? : Json → Option JsString
  | .string s => some s
  | _ => none

/-- `Schema.NullOr(Schema.String)`. -/
def nullOrString? : Json → Option (Option JsString)
  | .null => some none
  | .string s => some (some s)
  | _ => none

def lane? : Json → Option Lane
  | .string s =>
    if s = jsString "walkIn" then some .walkIn
    else if s = jsString "reservation" then some .reservation
    else none
  | _ => none

def ticketIds? : Json → Option (List TicketId)
  | .array elements => elements.mapM (fun e => e.string?.bind decodeTicketId)
  | _ => none

/-- The members of the body; anything but an object fails at the root. -/
def members : Json → Except FailResponse (List (String × Json))
  | .object members => .ok members
  | _ => .error .invalidBody

end Json

section
variable {α : Type} (members : List (String × Json)) (name : String) (decode : Json → Option α)

def requiredField : Except FailResponse α :=
  match (members.lookup name).bind decode with
  | some a => .ok a
  | none => .error (fieldFailure name)

def optionalField : Except FailResponse (Option α) :=
  match members.lookup name with
  | none => .ok none
  | some value =>
    match decode value with
    | some a => .ok (some a)
    | none => .error (fieldFailure name)

end
section
variable (u : Unicode) (instants : InstantText)

def nameKanaOf (value : Json) : Option JsString := value.string?.bind (decodeNameKana u)

def phoneLast4Of (value : Json) : Option JsString := value.string?.bind decodePhoneLast4

def instantOf (value : Json) : Option Instant :=
  value.string?.bind (fun s => instants.decode (usvString s))

/-- `ReasonSchema`. -/
def reasonOf (value : Json) : Option String := do
  let s ← value.string?
  if 0 < s.length && s.length ≤ 200 then return usvString s else none

/-- `PushEndpointSchema`. -/
def pushEndpointOf (value : Json) : Option JsString := do
  let s ← value.string?
  if s.length ≤ 2048 then return s else none

structure CancelBody where
  handle : CustomerHandle
  reason : String

structure RescheduleBody where
  nameKana : Option JsString
  phoneLast4 : Option JsString
  newAppointmentAt : String

structure PushSubscriptionBody where
  handle : CustomerHandle
  endpoint : JsString
  p256dh : JsString
  auth : JsString

def handleFields (members : List (String × Json)) : Except FailResponse CustomerHandle := do
  let nameKana ← requiredField members "nameKana" (nameKanaOf u)
  let phoneLast4 ← requiredField members "phoneLast4" phoneLast4Of
  return { nameKana, phoneLast4 }

def decodeCancelBody (raw : Json) : Except FailResponse CancelBody := do
  let members ← raw.members
  let handle ← handleFields u members
  let reason ← requiredField members "reason" reasonOf
  return { handle, reason }

def decodeStaffCancelBody (raw : Json) : Except FailResponse String := do
  let members ← raw.members
  requiredField members "reason" reasonOf

def decodeRescheduleBody (raw : Json) : Except FailResponse RescheduleBody := do
  let members ← raw.members
  let nameKana ← optionalField members "nameKana" (nameKanaOf u)
  let phoneLast4 ← optionalField members "phoneLast4" phoneLast4Of
  let newAppointmentAt ← requiredField members "newAppointmentAt" Json.string?
  return { nameKana, phoneLast4, newAppointmentAt := usvString newAppointmentAt }

def decodePushSubscriptionBody (raw : Json) : Except FailResponse PushSubscriptionBody := do
  let members ← raw.members
  let handle ← handleFields u members
  let endpoint ← requiredField members "endpoint" pushEndpointOf
  let p256dh ← requiredField members "p256dh" Json.string?
  let auth ← requiredField members "auth" Json.string?
  return { handle, endpoint, p256dh, auth }

/-- Parameters which are missing count as empty. -/
def decodePushSubscriptionDeleteQuery (query : String → Option JsString) :
    Except FailResponse (CustomerHandle × JsString) := do
  let members := ["nameKana", "phoneLast4", "endpoint"].map
    (fun name => (name, Json.string ((query name).getD [])))
  let handle ← handleFields u members
  let endpoint ← requiredField members "endpoint" pushEndpointOf
  return (handle, endpoint)

/-- `IssueTicketBodySchema`; the free text is taken as it is. -/
def decodeIssueBody (raw : Json) : Except FailResponse QueueAction := do
  let members ← raw.members
  let handle ← handleFields u members
  let freeText ← requiredField members "freeText" Json.nullOrString?
  let lane ← optionalField members "lane" Json.lane?
  let appointmentAt ← optionalField members "appointmentAt" (instantOf instants)
  return .issueTicket handle freeText lane (appointmentAt.map instants.encode)

def decodeCallNextBody (raw : Json) : Except FailResponse (Option Lane) := do
  let members ← raw.members
  optionalField members "lane" Json.lane?

def decodeCallSpecificBody (raw : Json) : Except FailResponse TicketId := do
  let members ← raw.members
  requiredField members "ticketId" (fun value => value.string?.bind decodeTicketId)

/-- The array is not empty. -/
def decodeCallBatchBody (raw : Json) : Except FailResponse (TicketId × List TicketId) := do
  let members ← raw.members
  requiredField members "ticketIds" (fun value => value.ticketIds?.bind
    (fun | [] => none | firstId :: restIds => some (firstId, restIds)))

end

/-! ### Fields -/

section
variable {α : Type} {members : List (String × Json)} {name : String} {decode : Json → Option α}
  {a : α} {env : Env} {request : HttpRequest}

theorem requiredField_ok :
    requiredField members name decode = .ok a ↔ (members.lookup name).bind decode = some a := by
  rw [requiredField]
  cases (members.lookup name).bind decode <;> simp

theorem optionalField_some (given : optionalField members name decode = .ok (some a)) :
    (members.lookup name).bind decode = some a := by
  rw [optionalField] at given
  cases found : members.lookup name with
  | none =>
    rw [found] at given
    cases given
  | some value =>
    rw [found] at given
    cases decoded : decode value with
    | none =>
      simp only [decoded] at given
      cases given
    | some b =>
      simp only [decoded] at given
      cases given
      exact decoded

theorem members_ok {raw : Json} :
    raw.members = .ok members ↔ raw = .object members := by
  cases raw <;> simp [Json.members]

theorem parseJsonBody_ok {body : RequestBody} {raw : Json} :
    parseJsonBody body = .ok raw ↔ body = .json raw := by
  cases body <;> simp [parseJsonBody]

theorem rateLimitMiddleware_ok {ns : RateLimitNamespace} :
    rateLimitMiddleware env ns = .ok () ↔ env.limit ns ≠ some false := by
  rw [rateLimitMiddleware]
  split
  · rename_i refused
    exact ⟨nofun, fun open_ => absurd refused open_⟩
  · rename_i open_
    exact ⟨fun _ => open_, fun _ => rfl⟩

theorem pathTicketId_ok {id : TicketId} :
    pathTicketId request = .ok id ↔ decodeTicketId request.id = some id := by
  rw [pathTicketId]
  cases decodeTicketId request.id <;> simp

end

/-! ### Ids are read one to one -/

theorem suffixDigit_lt {a : UInt16} {d : Nat} (read : suffixDigit a = some d) : d < 36 := by
  simp only [suffixDigit, isDigit, Bool.and_eq_true, decide_eq_true_eq, UInt16.le_iff_toNat_le]
    at read
  split at read
  · rename_i digit
    cases read
    have top : a.toNat ≤ 57 := digit.2
    omega
  · split at read
    · rename_i letter
      cases read
      have top : a.toNat ≤ 122 := letter.2
      omega
    · cases read

theorem suffixDigit_injective {a b : UInt16} {d : Nat} (ha : suffixDigit a = some d)
    (hb : suffixDigit b = some d) : a = b := by
  simp only [suffixDigit, isDigit, Bool.and_eq_true, decide_eq_true_eq, UInt16.le_iff_toNat_le]
    at ha hb
  apply UInt16.toNat_inj.mp
  have known : (0x30 : UInt16).toNat = 48 ∧ (0x39 : UInt16).toNat = 57 ∧
      (0x61 : UInt16).toNat = 97 ∧ (0x7a : UInt16).toNat = 122 := by decide
  grind

theorem suffixNumber_injective {ds es : List Nat} (length : ds.length = es.length)
    (smallD : ∀ d ∈ ds, d < 36) (smallE : ∀ e ∈ es, e < 36)
    (same : suffixNumber ds = suffixNumber es) : ds = es := by
  have general : ∀ (ds es : List Nat) (n m : Nat), ds.length = es.length → (∀ d ∈ ds, d < 36) →
      (∀ e ∈ es, e < 36) → ds.foldl (fun n d => 36 * n + d) n = es.foldl (fun n d => 36 * n + d) m →
        n = m ∧ ds = es := by
    intro ds
    induction ds with
    | nil =>
      intro es n m length _ _ same
      cases List.length_eq_zero_iff.mp length.symm
      exact ⟨same, rfl⟩
    | cons d ds ih =>
      intro es n m length smallD smallE same
      cases es with
      | nil => cases length
      | cons e es =>
        obtain ⟨headD, tailD⟩ := List.forall_mem_cons.mp smallD
        obtain ⟨headE, tailE⟩ := List.forall_mem_cons.mp smallE
        obtain ⟨front, rest⟩ := ih es (36 * n + d) (36 * m + e) (Nat.succ.inj length) tailD tailE
          same
        have digit : d = e := by omega
        exact ⟨by omega, by rw [digit, rest]⟩
  exact (general ds es 0 0 length smallD smallE same).2

theorem decodeTicketId_injective {s t : JsString} {id : TicketId} (hs : decodeTicketId s = some id)
    (ht : decodeTicketId t = some id) : s = t := by
  have read : ∀ {s : JsString}, decodeTicketId s = some id →
      s.take 4 = jsString "tkt_" ∧ ∃ digits,
        List.Forall₂ (fun a d => suffixDigit a = some d) (s.drop 4) digits ∧ digits.length = 26 ∧
          (∀ d ∈ digits, d < 36) ∧ suffixNumber digits = id.suffix := by
    intro s decoded
    unfold decodeTicketId at decoded
    split at decoded
    · rename_i shape
      obtain ⟨digits, reads, rfl⟩ := Option.map_eq_some_iff.mp decoded
      simp only [Bool.and_eq_true, decide_eq_true_eq] at shape
      have length := (Traversal.mapM_eq_some_iff.mp reads).length_eq
      refine ⟨shape.1, digits, Traversal.mapM_eq_some_iff.mp reads, ?_, ?_, rfl⟩
      · rw [← length, List.length_drop, shape.2]
      · intro d mem
        obtain ⟨_, _, digit⟩ := Traversal.mem_of_mapM reads mem
        exact suffixDigit_lt digit
    · cases decoded
  obtain ⟨frontS, ds, readS, lengthS, smallS, numberS⟩ := read hs
  obtain ⟨frontT, es, readT, lengthT, smallT, numberT⟩ := read ht
  have digits : ds = es := suffixNumber_injective (lengthS.trans lengthT.symm) smallS smallT
    (numberS.trans numberT.symm)
  have unique : Relator.LeftUnique (fun a d => suffixDigit a = some d) :=
    fun _ _ _ => suffixDigit_injective
  have back : s.drop 4 = t.drop 4 := unique.forall₂ readS (digits ▸ readT)
  rw [← List.take_append_drop 4 s, ← List.take_append_drop 4 t, frontS, frontT, back]

end SlotBooking
