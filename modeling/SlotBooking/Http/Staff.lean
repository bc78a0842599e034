import SlotBooking.Http.Requests

/-! Who counts as staff: `requireStaff`, and the two routes which look at the credentials
themselves before they ask it, or without asking it. -/
namespace SlotBooking

/-! ### Credentials -/

/-- `TextEncoder.encode`. -/
def encodeUtf8 (s : JsString) : List UInt8 := (usvString s).toUTF8.data.toList

def timingSafeEqual (a b : JsString) : Bool :=
  if (encodeUtf8 a).length ≠ (encodeUtf8 b).length then false
  else (List.zipWith (fun x y => x ^^^ y) (encodeUtf8 a) (encodeUtf8 b)).foldl
    (fun diff x => diff ||| x) 0 == 0

def cookieName : JsString := jsString "__Host-staff_session"

/-- The name of a cookie and the pieces of its value, as `=` cuts them. -/
def cookiePieces (segment : JsString) : List JsString := (trim segment).splitOn 0x3d

/-- The first cookie of the name decides. -/
def readSessionCookie : Option JsString → Option JsString
  | none => none
  | some header =>
    match (header.splitOn 0x3b).find? (fun s => (cookiePieces s).head? = some cookieName) with
    | none => none
    | some segment =>
      let value := [0x3d].intercalate (cookiePieces segment).tail
      if 0 < value.length then some value else none

example : readSessionCookie (some (jsString "a=b; __Host-staff_session=c.d=; e")) =
    some (jsString "c.d=") := by decide

def bearer : JsString := jsString "Bearer "

section
variable (env : Env) (secret : JsString) (request : HttpRequest)

def acceptsHeaderToken : Bool :=
  match request.header "x-staff-token" with
  | none => false
  | some headerToken => timingSafeEqual headerToken secret

def acceptsBearer : Bool :=
  match request.header "authorization" with
  | none => false
  | some auth =>
    if bearer.isPrefixOf auth then
      let jwt := trim (auth.drop bearer.length)
      0 < jwt.length && env.verifyStaffJwt secret jwt
    else false

def acceptsCookie : Bool :=
  match readSessionCookie (request.header "cookie") with
  | none => false
  | some cookieValue => env.verifySession secret cookieValue

end

def FailResponse.missingStaffCapability (status : Nat) (reason : String) : FailResponse :=
  { status, tag := "MissingStaffCapability", code := "E_VAL_MISSING_STAFF_CAPABILITY",
    reason := some reason }

/-- Nothing was presented, or nothing of the kinds that count. -/
def rejectionReason (request : HttpRequest) : String :=
  if request.header "x-staff-token" = none && request.header "authorization" = none &&
    readSessionCookie (request.header "cookie") = none then "absent" else "wrong_kind"

def requireStaff (env : Env) (request : HttpRequest) : Except FailResponse Unit :=
  match env.staffSessionSecret with
  | none | some [] => .error (.missingStaffCapability 503 "absent")
  | some secret =>
    if acceptsHeaderToken secret request then .ok ()
    else if acceptsBearer env secret request then .ok ()
    else if acceptsCookie env secret request then .ok ()
    else .error (.missingStaffCapability 401 (rejectionReason request))

/-! ### The two routes -/

/-- `isStaff` of the reschedule route. -/
def rescheduleIsStaff (env : Env) (request : HttpRequest) : Bool :=
  env.staffSessionSecret ≠ none && request.header "x-staff-token" = env.staffSessionSecret

/-- `isStaff` of the cancel route. -/
def cancelIsStaff (request : HttpRequest) : Bool := (request.header "x-staff-token").isSome

def RescheduleBody.handle (body : RescheduleBody) : Option CustomerHandle := do
  let nameKana ← body.nameKana
  let phoneLast4 ← body.phoneLast4
  return { nameKana, phoneLast4 }

section
variable (u : Unicode) (env : Env) (request : HttpRequest)

def rescheduleRoute : Except FailResponse QueueAction := do
  rateLimitMiddleware env .verify
  let ticketId ← pathTicketId request
  let raw ← parseJsonBody request.body
  let body ← decodeRescheduleBody u raw
  let isStaff := rescheduleIsStaff env request
  let handle := if isStaff then none else body.handle
  if !isStaff && handle.isNone then .error .invalidBody
  else
    return .rescheduleTicket ticketId body.newAppointmentAt env.granularity env.tz env.capacity
      (if isStaff then .staff else .customer) handle

/-- Here the body is parsed before the id is read. -/
def cancelRoute : Except FailResponse QueueAction := do
  rateLimitMiddleware env .verify
  let raw ← parseJsonBody request.body
  let ticketId ← pathTicketId request
  if cancelIsStaff request then do
    requireStaff env request
    let reason ← decodeStaffCancelBody raw
    return .cancelTicket ticketId .staff reason none
  else do
    let body ← decodeCancelBody u raw
    return .cancelTicket ticketId .customer body.reason (some body.handle)

end

/-! ### One decision -/

/-- What a route takes a request for. -/
inductive Standing where
  | staff
  | customer
  | refused
deriving DecidableEq

def rescheduleStanding (env : Env) (request : HttpRequest) : Standing :=
  if rescheduleIsStaff env request then .staff else .customer

def cancelStanding (env : Env) (request : HttpRequest) : Standing :=
  if cancelIsStaff request then
    match requireStaff env request with
    | .ok _ => .staff
    | .error _ => .refused
  else .customer

/-- Whoever acts, where the action says so. -/
def QueueAction.actor : QueueAction → Option Actor
  | .callNext actor _ | .callSpecific _ actor | .callBatch _ _ actor | .markNoShow _ actor
  | .recall _ actor | .cancelTicket _ actor _ _ | .rescheduleTicket _ _ _ _ _ actor _ => some actor
  | _ => none

/-- Both routes take a request for one of the staff just where `requireStaff` accepts it. -/
structure OneStaffDecision (env : Env) (request : HttpRequest) : Prop where
  reschedule : rescheduleStanding env request = .staff ↔ requireStaff env request = .ok ()
  cancel : cancelStanding env request = .staff ↔ requireStaff env request = .ok ()

/-- The secret itself is in the header, or no credential is accepted at all. Where the secret is
empty, the header is not empty as well. -/
def UnambiguousCredentials (env : Env) (request : HttpRequest) : Prop :=
  match env.staffSessionSecret with
  | none => True
  | some [] => request.header "x-staff-token" ≠ some []
  | some secret => request.header "x-staff-token" = some secret ∨
    (acceptsHeaderToken secret request = false ∧ acceptsBearer env secret request = false ∧
      acceptsCookie env secret request = false)

section
variable {u : Unicode} {env : Env} {request : HttpRequest} {secret : JsString}
  {action : QueueAction}

theorem timingSafeEqual_iff {a b : JsString} :
    timingSafeEqual a b = true ↔ usvString a = usvString b := by
  have bytes : encodeUtf8 a = encodeUtf8 b ↔ usvString a = usvString b := by
    rw [encodeUtf8, encodeUtf8, Array.toList_inj, ← ByteArray.ext_iff, String.toUTF8_eq_toByteArray,
      String.toUTF8_eq_toByteArray, String.toByteArray_inj]
  rw [← bytes, timingSafeEqual]
  by_cases length : (encodeUtf8 a).length = (encodeUtf8 b).length
  · rw [if_neg (not_not.mpr length), beq_iff_eq]
    exact ConstantTime.differences_eq_zero (fun _ _ => UInt8.or_eq_zero_iff)
      (fun _ _ => UInt8.xor_eq_zero_iff) length
  · rw [if_pos length]
    exact ⟨nofun, fun same => absurd (congrArg List.length same) length⟩

theorem requireStaff_unset (unset : env.staffSessionSecret = none) :
    requireStaff env request ≠ .ok () := by
  rw [requireStaff, unset]
  nofun

theorem requireStaff_empty (empty : env.staffSessionSecret = some []) :
    requireStaff env request ≠ .ok () := by
  rw [requireStaff, empty]
  nofun

theorem requireStaff_set (set : env.staffSessionSecret = some secret) (some_ : secret ≠ []) :
    requireStaff env request = .ok () ↔ acceptsHeaderToken secret request = true ∨
      acceptsBearer env secret request = true ∨ acceptsCookie env secret request = true := by
  obtain ⟨unit, rest, rfl⟩ := List.exists_cons_of_ne_nil some_
  simp only [requireStaff, set]
  by_cases token : acceptsHeaderToken (unit :: rest) request = true
  · simp [token]
  · by_cases jwt : acceptsBearer env (unit :: rest) request = true
    · simp [token, jwt]
    · by_cases cookie : acceptsCookie env (unit :: rest) request = true
      · simp [token, jwt, cookie]
      · simp [token, jwt, cookie]

theorem acceptsHeaderToken_self (presented : request.header "x-staff-token" = some secret) :
    acceptsHeaderToken secret request = true := by
  rw [acceptsHeaderToken, presented]
  exact timingSafeEqual_iff.mpr rfl

theorem rescheduleIsStaff_iff : rescheduleIsStaff env request = true ↔
    ∃ secret, env.staffSessionSecret = some secret ∧
      request.header "x-staff-token" = some secret := by
  rw [rescheduleIsStaff]
  cases set : env.staffSessionSecret with
  | none => simp
  | some secret => simp

theorem rescheduleStanding_staff : rescheduleStanding env request = .staff ↔
    ∃ secret, env.staffSessionSecret = some secret ∧
      request.header "x-staff-token" = some secret := by
  rw [← rescheduleIsStaff_iff, rescheduleStanding]
  cases rescheduleIsStaff env request <;> simp

theorem cancelStanding_staff : cancelStanding env request = .staff ↔
    (request.header "x-staff-token").isSome = true ∧ requireStaff env request = .ok () := by
  rw [cancelStanding, cancelIsStaff]
  cases (request.header "x-staff-token").isSome with
  | false => simp
  | true =>
    cases decided : requireStaff env request with
    | ok => simp
    | error response => simp

/-- The two ways of a reschedule: as staff without a handle, as a customer with the one of the
body. -/
theorem rescheduleRoute_ok : rescheduleRoute u env request = .ok action ↔
    env.limit .verify ≠ some false ∧ ∃ id raw body, decodeTicketId request.id = some id ∧
      request.body = .json raw ∧ decodeRescheduleBody u raw = .ok body ∧
      (rescheduleIsStaff env request = true ∧ action = .rescheduleTicket id body.newAppointmentAt
          env.granularity env.tz env.capacity .staff none ∨
        rescheduleIsStaff env request = false ∧ ∃ handle, body.handle = some handle ∧
          action = .rescheduleTicket id body.newAppointmentAt env.granularity env.tz env.capacity
            .customer (some handle)) := by
  simp only [rescheduleRoute, Effect.except_bind_eq_ok]
  constructor
  · rintro ⟨_, passed, id, path, raw, parsed, body, decoded, sent⟩
    refine ⟨rateLimitMiddleware_ok.mp passed, id, raw, body, pathTicketId_ok.mp path,
      parseJsonBody_ok.mp parsed, decoded, ?_⟩
    cases staff : rescheduleIsStaff env request with
    | true =>
      simp only [staff] at sent
      cases sent
      exact .inl ⟨rfl, rfl⟩
    | false =>
      cases given : body.handle with
      | none =>
        simp only [staff, given] at sent
        cases sent
      | some handle =>
        simp only [staff, given] at sent
        cases sent
        exact .inr ⟨rfl, handle, rfl, rfl⟩
  · rintro ⟨passed, id, raw, body, path, parsed, decoded, ways⟩
    refine ⟨(), rateLimitMiddleware_ok.mpr passed, id, pathTicketId_ok.mpr path, raw,
      parseJsonBody_ok.mpr parsed, body, decoded, ?_⟩
    rcases ways with ⟨staff, rfl⟩ | ⟨customer, handle, given, rfl⟩
    · simp only [staff]
      rfl
    · simp only [customer, given]
      rfl

/-- The actor of a reschedule is the standing of its request. -/
theorem rescheduleRoute_actor (sent : rescheduleRoute u env request = .ok action) :
    action.actor = some .staff ↔ rescheduleStanding env request = .staff := by
  rw [rescheduleStanding]
  obtain ⟨_, _, _, _, _, _, _, ⟨staff, rfl⟩ | ⟨customer, _, _, rfl⟩⟩ := rescheduleRoute_ok.mp sent
  · simp [QueueAction.actor, staff]
  · simp [QueueAction.actor, customer]

theorem cancelRoute_actor (sent : cancelRoute u env request = .ok action) :
    action.actor = some .staff ↔ cancelStanding env request = .staff := by
  simp only [cancelRoute, Effect.except_bind_eq_ok] at sent
  obtain ⟨_, _, raw, _, ticketId, _, sent⟩ := sent
  rw [cancelStanding]
  cases taken : cancelIsStaff request with
  | true =>
    simp only [taken, if_true, Effect.except_bind_eq_ok] at sent
    obtain ⟨_, accepted, reason, _, same⟩ := sent
    cases same
    simp [QueueAction.actor, accepted]
  | false =>
    simp only [taken, Bool.false_eq_true, if_false, Effect.except_bind_eq_ok] at sent
    obtain ⟨body, _, same⟩ := sent
    cases same
    simp [QueueAction.actor]

/-- Where the guard accepts, the routes agree with it just when the secret itself is in the
header. -/
theorem oneStaffDecision_accepted (accepted : requireStaff env request = .ok ()) :
    OneStaffDecision env request ↔ ∃ secret, env.staffSessionSecret = some secret ∧
      request.header "x-staff-token" = some secret := by
  constructor
  · intro one
    exact rescheduleStanding_staff.mp (one.reschedule.mpr accepted)
  · rintro ⟨secret, set, presented⟩
    refine ⟨iff_of_true (rescheduleStanding_staff.mpr ⟨secret, set, presented⟩) accepted, ?_⟩
    rw [cancelStanding_staff]
    simp [presented, accepted]

theorem oneStaffDecision_refused (refused : requireStaff env request ≠ .ok ()) :
    OneStaffDecision env request ↔ ¬ ∃ secret, env.staffSessionSecret = some secret ∧
      request.header "x-staff-token" = some secret := by
  constructor
  · intro one presented
    exact refused (one.reschedule.mp (rescheduleStanding_staff.mpr presented))
  · intro absent
    refine ⟨iff_of_false (fun staff => absent (rescheduleStanding_staff.mp staff)) refused, ?_⟩
    rw [cancelStanding_staff]
    simp [refused]

end

theorem one_staff_decision_iff (env : Env) (request : HttpRequest) :
    OneStaffDecision env request ↔ UnambiguousCredentials env request := by
  rw [UnambiguousCredentials]
  split
  · rename_i unset
    rw [oneStaffDecision_refused (requireStaff_unset unset), unset]
    simp
  · rename_i empty
    rw [oneStaffDecision_refused (requireStaff_empty empty), empty]
    simp
  · rename_i secret filled set
    have decides := @requireStaff_set env request secret set filled
    have itself : (∃ other, env.staffSessionSecret = some other ∧
        request.header "x-staff-token" = some other) ↔
        request.header "x-staff-token" = some secret := by simp [set]
    by_cases accepted : requireStaff env request = .ok ()
    · rw [oneStaffDecision_accepted accepted, itself]
      refine ⟨.inl, fun credentials => credentials.resolve_right ?_⟩
      rintro ⟨noToken, noBearer, noCookie⟩
      simp [decides, noToken, noBearer, noCookie] at accepted
    · rw [oneStaffDecision_refused accepted, itself]
      constructor
      · intro _
        rw [decides] at accepted
        simp only [not_or, Bool.not_eq_true] at accepted
        exact .inr accepted
      · intro _ presented
        exact accepted (decides.mpr (.inl (acceptsHeaderToken_self presented)))

namespace Sample

/-- A secret, and verifiers which know one token each. -/
def env (secret : Option JsString) : Env where
  staffSessionSecret := secret
  limit _ := none
  granularity := .half
  tz := ⟨fun _ => 0, fun date => Instant.ofEpochNs (date.epochDay * nsPerDay)⟩
  capacity := 2
  verifyStaffJwt _ token := token = jsString "jwt"
  verifySession _ cookie := cookie = jsString "session"
  parseUrl _ := none

/-- One header beside the path. -/
def asking (id name value : String) (body : RequestBody) : HttpRequest where
  id := jsString id
  header other := if other = name then some (jsString value) else none
  query _ := none
  body := body

end Sample

/-- A token of the login is staff to the guard and a customer to both routes; under an empty secret
an empty header is staff to the reschedule route alone. -/
theorem staff_decisions_differ :
    ¬ OneStaffDecision (Sample.env (some (jsString "secret")))
        (Sample.asking "tkt_" "authorization" "Bearer jwt" .empty) ∧
      ¬ OneStaffDecision (Sample.env (some [])) (Sample.asking "tkt_" "x-staff-token" "" .empty) := by
  refine ⟨fun one => ?_, fun one => ?_⟩
  · have accepted : requireStaff (Sample.env (some (jsString "secret")))
        (Sample.asking "tkt_" "authorization" "Bearer jwt" .empty) = .ok () := by decide
    exact absurd (one.cancel.mpr accepted) (by decide)
  · have taken : rescheduleStanding (Sample.env (some []))
        (Sample.asking "tkt_" "x-staff-token" "" .empty) = .staff := by decide
    exact absurd (one.reschedule.mp taken) (by decide)

end SlotBooking
