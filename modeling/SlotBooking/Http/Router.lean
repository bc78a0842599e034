import SlotBooking.Http.Staff
import SlotBooking.Shop.Routes
import SlotBooking.Shop.Subscriptions

/-! The routes which change something: those of the registry, the two which know customers from
staff themselves, and those of the push subscriptions. -/
namespace SlotBooking

section
variable (u : Unicode) (instants : InstantText)

/-! ### The registry -/

/-- An entry reads a ticket id from its path, or a body. -/
inductive RoutingInput where
  | ticketId (buildAction : TicketId → QueueAction)
  | body (allowEmptyBody : Bool) (buildAction : Json → Except FailResponse QueueAction)

/-- The status of a success depends on the result. -/
structure RoutingEntry where
  path : String
  rateLimit : Option RateLimitNamespace := none
  requireStaff : Bool := false
  input : RoutingInput
  successStatus : QueueResult → Nat := fun _ => 200

inductive RegisteredRoute where
  | checkIn
  | served
  | noShow
  | recall
  | issue
  | callNext
  | callSpecific
  | callBatch
deriving DecidableEq

def issueStatus : QueueResult → Nat
  | .ticket _ true => 200
  | _ => 201

def routingRegistry : RegisteredRoute → RoutingEntry
  | .checkIn =>
    { path := "/api/v1/tickets/:id/check-in", rateLimit := some .verify,
      input := .ticketId (fun ticketId => .checkIn ticketId) }
  | .served =>
    { path := "/api/v1/tickets/:id/served", requireStaff := true,
      input := .ticketId (fun ticketId => .markServed ticketId) }
  | .noShow =>
    { path := "/api/v1/tickets/:id/no-show", requireStaff := true,
      input := .ticketId (fun ticketId => .markNoShow ticketId .staff) }
  | .recall =>
    { path := "/api/v1/tickets/:id/recall", requireStaff := true,
      input := .ticketId (fun ticketId => .recall ticketId .staff) }
  | .issue =>
    { path := "/api/v1/tickets", rateLimit := some .issue,
      input := .body false (decodeIssueBody u instants), successStatus := issueStatus }
  | .callNext =>
    { path := "/api/v1/queue/call-next", rateLimit := some .operate, requireStaff := true,
      input := .body true (fun raw => do
        let lane ← decodeCallNextBody raw
        return .callNext .staff lane) }
  | .callSpecific =>
    { path := "/api/v1/queue/call-specific", rateLimit := some .operate, requireStaff := true,
      input := .body false (fun raw => do
        let ticketId ← decodeCallSpecificBody raw
        return .callSpecific ticketId .staff) }
  | .callBatch =>
    { path := "/api/v1/queue/call-batch", rateLimit := some .operate, requireStaff := true,
      input := .body false (fun raw => do
        let (firstId, restIds) ← decodeCallBatchBody raw
        return .callBatch firstId restIds .staff) }

namespace RoutingEntry

variable (entry : RoutingEntry) (env : Env) (request : HttpRequest)

def limited : Except FailResponse Unit :=
  match entry.rateLimit with
  | some ns => rateLimitMiddleware env ns
  | none => .ok ()

def guarded : Except FailResponse Unit :=
  if entry.requireStaff then SlotBooking.requireStaff env request else .ok ()

def parsed (allowEmptyBody : Bool) : Except FailResponse Json :=
  if allowEmptyBody then parseOptionalBody request.body else parseJsonBody request.body

def action : Except FailResponse QueueAction :=
  match entry.input with
  | .ticketId buildAction => do
    let ticketId ← pathTicketId request
    return buildAction ticketId
  | .body allowEmptyBody buildAction => do
    let raw ← parsed request allowEmptyBody
    buildAction raw

/-- The handler which `buildRouterFromRegistry` makes of an entry, up to its dispatch. -/
def handler : Except FailResponse QueueAction := do
  entry.limited env
  entry.guarded env request
  entry.action request

end RoutingEntry

/-! ### Push subscriptions -/

def allowedPushEndpointHosts : List String :=
  ["fcm.googleapis.com", "updates.push.services.mozilla.com", "web.push.apple.com"]

def isAllowedPushEndpoint (env : Env) (endpoint : JsString) : Bool :=
  match env.parseUrl endpoint with
  | none => false
  | some url => url.protocol = "https:" && allowedPushEndpointHosts.contains url.host

def registerPushRoute (env : Env) (request : HttpRequest) :
    Except FailResponse (TicketId × CustomerHandle × PushSubscription) := do
  rateLimitMiddleware env .verify
  let ticketId ← pathTicketId request
  let raw ← parseJsonBody request.body
  let body ← decodePushSubscriptionBody u raw
  if !isAllowedPushEndpoint env body.endpoint then
    .error { status := 422, tag := "InvalidPushEndpoint", code := "E_VAL_PUSH_ENDPOINT" }
  else
    return (ticketId, body.handle,
      ⟨usvString body.endpoint, usvString body.p256dh, usvString body.auth⟩)

def unregisterPushRoute (env : Env) (request : HttpRequest) :
    Except FailResponse (TicketId × CustomerHandle × String) := do
  rateLimitMiddleware env .verify
  let ticketId ← pathTicketId request
  let (handle, endpoint) ← decodePushSubscriptionDeleteQuery u request.query
  return (ticketId, handle, usvString endpoint)

/-! ### Replies -/

def statusByTag : List (String × Nat) :=
  [("TicketNotFound", 404), ("AggregateNotFound", 404), ("InvalidEntityId", 404),
    ("PhoneMismatch", 403), ("MissingStaffCapability", 403), ("InsufficientCapability", 403),
    ("QueueEmpty", 409), ("AlreadyCancelled", 409), ("AlreadyCompleted", 409),
    ("AlreadyNoShow", 409), ("InvalidStateTransition", 409), ("LaneMismatch", 409),
    ("SlotFull", 409), ("CheckInTooEarly", 409), ("Concurrency", 409),
    ("InvalidPhoneLast4", 422), ("InvalidNameKana", 422), ("InvalidFreeText", 422),
    ("InvalidBusinessTimeZone", 422), ("SlotInPast", 422),
    ("AppointmentRequiredForReservationLane", 422), ("Storage", 500)]

def defectStatus : Nat := 500

/-- A response without a status is sent as 200. -/
def errorStatus (tag : String) : Nat :=
  if tag = "Defect" then defectStatus else (statusByTag.lookup tag).getD 200

inductive HttpReply where
  | failed (response : FailResponse)
  | envelope (status : Nat) (result : QueueResult)
  | push (status : Nat) (reply : PushReply)
deriving DecidableEq

def dispatchEnvelope (result : QueueResult) (status : Nat) : HttpReply :=
  match result with
  | .error tag _ => .envelope (errorStatus tag) result
  | _ => .envelope status result

/-- `onError`: what a rejected dispatch comes to. -/
def HttpReply.defect : HttpReply :=
  .failed { status := defectStatus, tag := "Defect", code := "E_DEFECT" }

def registerStatus : PushReply → Nat
  | .ok => 201
  | .refused "TicketNotFound" => 404
  | .refused "PhoneMismatch" => 403
  | .refused _ => 409

def unregisterStatus : PushReply → Nat
  | .ok => 200
  | .refused "PhoneMismatch" => 403
  | .refused _ => 409

/-! ### Serving -/

inductive Route where
  | registered (route : RegisteredRoute)
  | reschedule
  | cancel
  | registerPush
  | unregisterPush
deriving DecidableEq

/-- What a route asks of the actor. -/
inductive ActorCall where
  | dispatch (action : QueueAction)
  | registerPush (ticketId : TicketId) (handle : CustomerHandle) (subscription : PushSubscription)
  | unregisterPush (ticketId : TicketId) (handle : CustomerHandle) (endpoint : String)

def Route.handler (route : Route) (env : Env) (request : HttpRequest) :
    Except FailResponse ActorCall :=
  match route with
  | .registered route => do
    let action ← (routingRegistry u instants route).handler env request
    return .dispatch action
  | .reschedule => do
    let action ← rescheduleRoute u env request
    return .dispatch action
  | .cancel => do
    let action ← cancelRoute u env request
    return .dispatch action
  | .registerPush => do
    let (ticketId, handle, subscription) ← registerPushRoute u env request
    return .registerPush ticketId handle subscription
  | .unregisterPush => do
    let (ticketId, handle, endpoint) ← unregisterPushRoute u env request
    return .unregisterPush ticketId handle endpoint

def Route.successStatus : Route → QueueResult → Nat
  | .registered route => (routingRegistry u instants route).successStatus
  | _ => fun _ => 200

def Shop.answer (ports : Ports) (route : Route) (shop : Shop) : ActorCall → HttpReply × Shop
  | .dispatch action =>
    match shop.dispatch u instants ports action with
    | (.error _, shop) => (.defect, shop)
    | (.ok result, shop) => (dispatchEnvelope result (route.successStatus u instants result), shop)
  | .registerPush ticketId handle subscription =>
    let (reply, shop) := shop.registerPushSubscription ticketId handle subscription
    (.push (registerStatus reply) reply, shop)
  | .unregisterPush ticketId handle endpoint =>
    let (reply, shop) := shop.unregisterPushSubscription ticketId handle endpoint
    (.push (unregisterStatus reply) reply, shop)

def Shop.respond (env : Env) (ports : Ports) (route : Route) (request : HttpRequest) (shop : Shop) :
    HttpReply × Shop :=
  match route.handler u instants env request with
  | .error response => (.failed response, shop)
  | .ok call => shop.answer u instants ports route call

end

/-! ### What the routes let through -/

/-- Every error of a use case has a status of its own. -/
theorem errorStatus_domain (e : QueueError) : 400 ≤ errorStatus e.tag := by
  cases e <;> simp only [QueueError.tag] <;> decide

section
variable {u : Unicode} {instants : InstantText} {env : Env} {request : HttpRequest}
  {action : QueueAction} {route : Route}

theorem RoutingEntry.handler_staff {entry : RoutingEntry} (staff : entry.requireStaff = true)
    (sent : entry.handler env request = .ok action) :
    SlotBooking.requireStaff env request = .ok () := by
  simp only [handler, Effect.except_bind_eq_ok, guarded, staff, if_true] at sent
  obtain ⟨_, _, _, accepted, _⟩ := sent
  exact accepted

theorem checkIn_handler : (routingRegistry u instants .checkIn).handler env request = .ok action ↔
    env.limit .verify ≠ some false ∧ ∃ id, decodeTicketId request.id = some id ∧
      action = .checkIn id := by
  simp only [RoutingEntry.handler, RoutingEntry.limited, RoutingEntry.guarded, RoutingEntry.action,
    routingRegistry, Effect.except_bind_eq_ok]
  constructor
  · rintro ⟨_, passed, _, _, id, path, same⟩
    cases same
    exact ⟨rateLimitMiddleware_ok.mp passed, id, pathTicketId_ok.mp path, rfl⟩
  · rintro ⟨passed, id, found, rfl⟩
    exact ⟨(), rateLimitMiddleware_ok.mpr passed, (), rfl, id, pathTicketId_ok.mpr found, rfl⟩

theorem decodeIssueBody_ok {raw : Json} (decoded : decodeIssueBody u instants raw = .ok action) :
    action.Routed ∧ Accepted u instants action := by
  simp only [decodeIssueBody, handleFields, Effect.except_bind_eq_ok, requiredField_ok] at decoded
  obtain ⟨members, _, handle, ⟨nameKana, name, phoneLast4, phone, same⟩, freeText, _, lane, _,
    appointmentAt, at_, built⟩ := decoded
  cases same
  cases built
  obtain ⟨_, _, rawName⟩ := Option.bind_eq_some_iff.mp name
  obtain ⟨rawName, _, nameDecoded⟩ := Option.bind_eq_some_iff.mp rawName
  obtain ⟨_, _, rawPhone⟩ := Option.bind_eq_some_iff.mp phone
  obtain ⟨rawPhone, _, phoneDecoded⟩ := Option.bind_eq_some_iff.mp rawPhone
  have instant : ∃ text, decodeOptionalInstant instants text = some appointmentAt := by
    cases appointmentAt with
    | none => exact ⟨none, rfl⟩
    | some t =>
      obtain ⟨value, _, read⟩ := Option.bind_eq_some_iff.mp (optionalField_some at_)
      obtain ⟨s, _, decoded⟩ := Option.bind_eq_some_iff.mp read
      exact ⟨some (usvString s), by rw [decodeOptionalInstant, decoded]; rfl⟩
  obtain ⟨text, read⟩ := instant
  refine ⟨trivial, ⟨rawName, rawPhone, freeText, lane, text⟩, ?_⟩
  simp [decodeIssueTicketBody, nameDecoded, phoneDecoded, read]

/-- What the routes dispatch is what the boundary accepts, and within their reach. -/
theorem Route.handler_dispatch
    (sent : route.handler u instants env request = .ok (.dispatch action)) :
    action.Routed ∧ Accepted u instants action := by
  cases route with
  | registered entry =>
    simp only [Route.handler, Effect.except_bind_eq_ok] at sent
    obtain ⟨_, handled, same⟩ := sent
    cases same
    simp only [RoutingEntry.handler, Effect.except_bind_eq_ok] at handled
    obtain ⟨_, _, _, _, acts⟩ := handled
    cases entry with
    | checkIn | served | «recall» =>
      simp only [RoutingEntry.action, routingRegistry, Effect.except_bind_eq_ok] at acts
      obtain ⟨_, _, same⟩ := acts
      cases same
      exact ⟨trivial, trivial⟩
    | noShow =>
      simp only [RoutingEntry.action, routingRegistry, Effect.except_bind_eq_ok] at acts
      obtain ⟨_, _, same⟩ := acts
      cases same
      exact ⟨rfl, trivial⟩
    | issue =>
      simp only [RoutingEntry.action, routingRegistry, Effect.except_bind_eq_ok] at acts
      obtain ⟨raw, _, decoded⟩ := acts
      exact decodeIssueBody_ok decoded
    | callNext | callSpecific | callBatch =>
      simp only [RoutingEntry.action, routingRegistry, Effect.except_bind_eq_ok] at acts
      obtain ⟨_, _, _, _, same⟩ := acts
      cases same
      exact ⟨trivial, trivial⟩
  | reschedule =>
    simp only [Route.handler, Effect.except_bind_eq_ok] at sent
    obtain ⟨_, handled, same⟩ := sent
    cases same
    obtain ⟨_, _, _, _, _, _, _, ⟨_, rfl⟩ | ⟨_, _, _, rfl⟩⟩ := rescheduleRoute_ok.mp handled
    · exact ⟨trivial, trivial⟩
    · exact ⟨trivial, trivial⟩
  | cancel =>
    simp only [Route.handler, Effect.except_bind_eq_ok] at sent
    obtain ⟨_, handled, same⟩ := sent
    cases same
    simp only [cancelRoute, Effect.except_bind_eq_ok] at handled
    obtain ⟨_, _, _, _, _, _, handled⟩ := handled
    split at handled
    · simp only [Effect.except_bind_eq_ok] at handled
      obtain ⟨_, _, _, _, same⟩ := handled
      cases same
      exact ⟨trivial, trivial⟩
    · simp only [Effect.except_bind_eq_ok] at handled
      obtain ⟨_, _, same⟩ := handled
      cases same
      exact ⟨trivial, trivial⟩
  | registerPush | unregisterPush =>
    simp only [Route.handler, Effect.except_bind_eq_ok] at sent
    obtain ⟨_, _, same⟩ := sent
    cases same

end

end SlotBooking
