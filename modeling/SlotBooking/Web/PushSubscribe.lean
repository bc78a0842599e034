import SlotBooking.Http.Router
import SlotBooking.Runs.LifeCycle
import SlotBooking.Security.Base64Url
import SlotBooking.Shop.PushDelivery

/-! How a customer's device keeps its push subscription registered with the shop. The browser hands
out a subscription and may change it at any time; the page registers it, and remembers the endpoint
it registered last in order to withdraw it when another one has taken its place. -/
namespace SlotBooking

/-! ### The calls of the API -/

namespace Api

/-- `{ ok: true }` under a status of success; otherwise the tag of the error. -/
def result : HttpReply → Except String Unit
  | .failed response => .error response.tag
  | .envelope _ (.error tag _) => .error tag
  | .envelope _ _ => .ok ()
  | .push _ .ok => .ok ()
  | .push _ (.refused reason) => .error reason

def registerPushSubscription (ticketId : JsString) (handle : CustomerHandle)
    (endpoint p256dh auth : JsString) : HttpRequest where
  id := ticketId
  header := fun _ => none
  query := fun _ => none
  body := .json (.object [("nameKana", .string handle.nameKana),
    ("phoneLast4", .string handle.phoneLast4), ("endpoint", .string endpoint),
    ("p256dh", .string p256dh), ("auth", .string auth)])

def unregisterPushSubscription (ticketId : JsString) (handle : CustomerHandle)
    (endpoint : JsString) : HttpRequest where
  id := ticketId
  header := fun _ => none
  query := fun name => [("nameKana", handle.nameKana), ("phoneLast4", handle.phoneLast4),
    ("endpoint", endpoint)].lookup name
  body := .empty

end Api

/-! ### The device -/

/-- The members which `toJSON` gives, as far as it gives them. -/
structure SubscriptionJson where
  endpoint : Option JsString
  p256dh : Option JsString
  auth : Option JsString

/-- A `PushSubscription` of the browser, with the keys of `getKey`. -/
structure BrowserSubscription where
  endpoint : JsString
  json : SubscriptionJson
  p256dh : Option (List UInt8)
  auth : Option (List UInt8)

/-- What the push manager holds, and `queue.lastSubscribedEndpoint`. -/
structure PushDevice where
  subscription : Option BrowserSubscription
  lastEndpoint : Option JsString

inductive SubscribeResult where
  | subscribed (endpoint : JsString)
  | permissionDenied
  | unsupported
  | noHandle
  | aborted
  | error (reason : String)

/-- What the browser does in a call of `subscribeToPush` before its first request; `abortedAt`
tells the three checks of the signal. -/
structure SubscribeSetting where
  supported : Bool
  granted : Bool
  registers : Except String Unit
  offers : Except String BrowserSubscription
  abortedAt : Fin 3 → Bool

/-- A call of `subscribeToPush` between its requests: the endpoint it has to withdraw first, if any,
and the subscription it is to register. -/
structure SubscribeFlow where
  ticketId : JsString
  handle : CustomerHandle
  subscription : BrowserSubscription
  stale : Option JsString

namespace BrowserSubscription

def address (subscription : BrowserSubscription) : JsString :=
  subscription.json.endpoint.getD subscription.endpoint

/-- The keys to be sent, in base64url. -/
def keys (subscription : BrowserSubscription) : Except SubscribeResult (JsString × JsString) :=
  match subscription.p256dh, subscription.auth with
  | some p256dhRaw, some authRaw =>
    let p256dh := subscription.json.p256dh.getD (bytesToBase64Url p256dhRaw)
    let auth := subscription.json.auth.getD (bytesToBase64Url authRaw)
    if subscription.address = [] || p256dh = [] || auth = [] then
      .error (.error "missing subscription fields")
    else .ok (p256dh, auth)
  | _, _ => .error (.error "browser did not provide encryption keys")

end BrowserSubscription

theorem BrowserSubscription.keys_error {subscription : BrowserSubscription}
    {failure : SubscribeResult} (missing : subscription.keys = .error failure) :
    ∃ reason, failure = .error reason := by
  unfold BrowserSubscription.keys at missing
  split at missing
  · dsimp only at missing
    split at missing
    · cases missing
      exact ⟨_, rfl⟩
    · cases missing
  · cases missing
    exact ⟨_, rfl⟩

namespace PushDevice

/-- The subscription of the browser, or a new one. It stays even where the call is aborted next. -/
def subscribe (setting : SubscribeSetting) (device : PushDevice) :
    Except SubscribeResult BrowserSubscription × PushDevice :=
  match device.subscription, setting.offers with
  | some subscription, _ => (.ok subscription, device)
  | none, .ok subscription =>
    (.ok subscription, { device with subscription := some subscription })
  | none, .error reason => (.error (.error reason), device)

/-- `subscribeToPush` up to its first request. -/
def subscribeToPush (setting : SubscribeSetting) (ticketId : JsString)
    (handle : Option CustomerHandle) (device : PushDevice) :
    Except SubscribeResult SubscribeFlow × PushDevice :=
  if !setting.supported then (.error .unsupported, device)
  else
    match handle with
    | none => (.error .noHandle, device)
    | some handle =>
      if !setting.granted then (.error .permissionDenied, device)
      else if setting.abortedAt 0 then (.error .aborted, device)
      else
        match setting.registers with
        | .error reason => (.error (.error reason), device)
        | .ok () =>
          if setting.abortedAt 1 then (.error .aborted, device)
          else
            match device.subscribe setting with
            | (.error failure, device) => (.error failure, device)
            | (.ok subscription, device) =>
              if setting.abortedAt 2 then (.error .aborted, device)
              else
                let stale := device.lastEndpoint.filter (fun last => last ≠ subscription.address)
                (.ok ⟨ticketId, handle, subscription, stale⟩, device)

end PushDevice

/-! ### Device and shop -/

/-- One request on its way: it may get lost, and so may its answer. -/
structure Passage where
  env : Env
  reached : Bool
  answered : Bool

structure PushWorld where
  object : DurableObject
  device : PushDevice
  flow : Option SubscribeFlow

def PushWorld.empty : PushWorld := ⟨.empty, ⟨none, none⟩, none⟩

/-- What happens: anything else at the shop; the browser changes or drops its subscription; a call
of `subscribeToPush` begins, withdraws what is stale, registers, or ends with its tab; the page
unsubscribes. -/
inductive PushMoment where
  | served (event : ObjectEvent)
  | rotated (subscription : Option BrowserSubscription)
  | begun (setting : SubscribeSetting) (ticketId : JsString) (handle : Option CustomerHandle)
  | reconciled (passage : Passage)
  | posted (passage : Passage)
  | stopped
  | unsubscribed (dropped : Bool) (ticketId : JsString) (handle : Option CustomerHandle)
      (passage : Passage)

section
variable (u : Unicode)

def DurableObject.respondRegister (env : Env) (request : HttpRequest) (object : DurableObject) :
    HttpReply × DurableObject :=
  match registerPushRoute u env request with
  | .error response => (.failed response, object)
  | .ok (ticketId, handle, subscription) =>
    let (reply, shop) := object.shop.registerPushSubscription ticketId handle subscription
    (.push (registerStatus reply) reply, { object with shop })

def DurableObject.respondUnregister (env : Env) (request : HttpRequest) (object : DurableObject) :
    HttpReply × DurableObject :=
  match unregisterPushRoute u env request with
  | .error response => (.failed response, object)
  | .ok (ticketId, handle, endpoint) =>
    let (reply, shop) := object.shop.unregisterPushSubscription ticketId handle endpoint
    (.push (unregisterStatus reply) reply, { object with shop })

/-- What the page is told, and the shop afterwards. -/
def Passage.carry (passage : Passage) (serve : Env → DurableObject → HttpReply × DurableObject)
    (object : DurableObject) : Except String Unit × DurableObject :=
  if passage.reached then
    let (reply, object) := serve passage.env object
    (if passage.answered then Api.result reply else .error "NetworkError", object)
  else (.error "NetworkError", object)

def SubscribeFlow.withdraw (flow : SubscribeFlow) (stale : JsString) (passage : Passage)
    (object : DurableObject) : Except String Unit × DurableObject :=
  passage.carry (fun env => DurableObject.respondUnregister u env
    (Api.unregisterPushSubscription flow.ticketId flow.handle stale)) object

def SubscribeFlow.register (flow : SubscribeFlow) (keys : JsString × JsString) (passage : Passage)
    (object : DurableObject) : Except String Unit × DurableObject :=
  passage.carry (fun env => DurableObject.respondRegister u env
    (Api.registerPushSubscription flow.ticketId flow.handle flow.subscription.address keys.1
      keys.2)) object

namespace PushWorld

/-- The last request of `subscribeToPush`, and what the call comes to. -/
def finish (flow : SubscribeFlow) (passage : Passage) (world : PushWorld) :
    SubscribeResult × PushWorld :=
  let world := { world with flow := none }
  match flow.subscription.keys with
  | .error failure => (failure, world)
  | .ok keys =>
    let (answer, object) := flow.register u keys passage world.object
    match answer with
    | .error tag => (.error ("register: " ++ tag), { world with object })
    | .ok () => (.subscribed flow.subscription.address,
        { world with
          object, device.lastEndpoint := some flow.subscription.address })

/-- `unsubscribeFromPush`; the browser may fail to drop its subscription. -/
def unsubscribeFromPush (dropped : Bool) (ticketId : JsString) (handle : Option CustomerHandle)
    (passage : Passage) (world : PushWorld) : PushWorld :=
  match world.device.subscription with
  | none => world
  | some subscription =>
    let object :=
      match handle with
      | none => world.object
      | some handle =>
        (passage.carry (fun env => DurableObject.respondUnregister u env
          (Api.unregisterPushSubscription ticketId handle subscription.endpoint)) world.object).2
    { world with
      object
      device := ⟨if dropped then none else some subscription, none⟩ }

variable (instants : InstantText) (scan : List TicketRow → List TicketRow)
  (earlier : Instant → Int → Bool) (config : AlarmConfig)

def step (world : PushWorld) : PushMoment → PushWorld
  | .served event =>
    { world with object := world.object.serve u instants scan earlier config event }
  | .rotated subscription => { world with device.subscription := subscription }
  | .begun setting ticketId handle =>
    match world.device.subscribeToPush setting ticketId handle with
    | (.error _, device) => { world with device }
    | (.ok flow, device) => { world with device, flow := some flow }
  | .reconciled passage =>
    match world.flow with
    | some flow =>
      match flow.stale with
      | some stale =>
        { world with
          object := (flow.withdraw u stale passage world.object).2
          flow := some { flow with stale := none } }
      | none => world
    | none => world
  | .posted passage =>
    match world.flow with
    | some flow => if flow.stale = none then (world.finish u flow passage).2 else world
    | none => world
  | .stopped => { world with flow := none }
  | .unsubscribed dropped ticketId handle passage =>
    world.unsubscribeFromPush u dropped ticketId handle passage

end PushWorld

end

/-! ### The subscriptions of one device -/

/-- Those of its endpoints which are registered for a ticket that is not finished. -/
def DurableObject.liveRows (own : String → Bool) (object : DurableObject) : List PushRow :=
  object.shop.pushSubscriptions.filter (fun r => own r.endpoint &&
    (object.store.row r.ticketId).any (fun row => row.state.isActive))

/-- The handle which the server reads in the requests of the page. -/
def readHandle (u : Unicode) (handle : CustomerHandle) : Option CustomerHandle := do
  let nameKana ← nameKanaOf u (.string handle.nameKana)
  let phoneLast4 ← phoneLast4Of (.string handle.phoneLast4)
  return { nameKana, phoneLast4 }

/-! ### The requests as the server reads them -/

section
variable {u : Unicode} {env : Env} {ticketId : JsString} {handle : CustomerHandle}

theorem handleFields_read {members : List (String × Json)} {read : CustomerHandle}
    (name : members.lookup "nameKana" = some (.string handle.nameKana))
    (phone : members.lookup "phoneLast4" = some (.string handle.phoneLast4))
    (fields : handleFields u members = .ok read) : readHandle u handle = some read := by
  simp only [handleFields, Effect.except_bind_eq_ok, requiredField_ok, name, phone,
    Option.bind_some] at fields
  obtain ⟨nameKana, nameRead, phoneLast4, phoneRead, same⟩ := fields
  cases same
  simp only [readHandle, nameRead, phoneRead, Option.bind_eq_bind, Option.bind_some]
  rfl

theorem pushEndpointOf_string {sent read : JsString}
    (given : pushEndpointOf (.string sent) = some read) : read = sent := by
  simp only [pushEndpointOf, Json.string?, Option.bind_eq_bind, Option.bind_some] at given
  split at given
  · exact (Option.some.inj given).symm
  · cases given

theorem registerPushRoute_read {endpoint p256dh auth : JsString} {id : TicketId}
    {read : CustomerHandle} {subscription : PushSubscription}
    (sent : registerPushRoute u env (Api.registerPushSubscription ticketId handle endpoint p256dh
      auth) = .ok (id, read, subscription)) :
    decodeTicketId ticketId = some id ∧ readHandle u handle = some read ∧
      subscription = ⟨usvString endpoint, usvString p256dh, usvString auth⟩ := by
  simp only [registerPushRoute, Effect.except_bind_eq_ok, decodePushSubscriptionBody,
    Api.registerPushSubscription, members_ok, parseJsonBody_ok] at sent
  obtain ⟨_, _, id', path, raw, parsed, body, ⟨members, object, handle', fields, endpoint', given,
    p256dh', key, auth', secret, built⟩, sent⟩ := sent
  cases parsed
  cases object
  cases built
  split at sent
  · cases sent
  · cases sent
    have endpointRead : pushEndpointOf (.string endpoint) = some endpoint' :=
      requiredField_ok.mp given
    have keyRead : some p256dh = some p256dh' := requiredField_ok.mp key
    have secretRead : some auth = some auth' := requiredField_ok.mp secret
    cases keyRead
    cases secretRead
    refine ⟨pathTicketId_ok.mp path, handleFields_read rfl rfl fields, ?_⟩
    rw [pushEndpointOf_string endpointRead]

theorem unregisterPushRoute_read {endpoint : JsString} {id : TicketId} {read : CustomerHandle}
    {text : String}
    (sent : unregisterPushRoute u env (Api.unregisterPushSubscription ticketId handle endpoint) =
      .ok (id, read, text)) :
    decodeTicketId ticketId = some id ∧ readHandle u handle = some read ∧
      text = usvString endpoint := by
  simp only [unregisterPushRoute, Effect.except_bind_eq_ok, decodePushSubscriptionDeleteQuery]
    at sent
  obtain ⟨_, _, id', path, ⟨handle', endpoint'⟩, ⟨handle'', fields, endpoint'', given, built⟩,
    sent⟩ := sent
  cases built
  cases sent
  have endpointRead : pushEndpointOf (.string endpoint) = some endpoint' :=
    requiredField_ok.mp given
  refine ⟨pathTicketId_ok.mp path, handleFields_read rfl rfl fields, ?_⟩
  rw [pushEndpointOf_string endpointRead]

theorem decodeBranded_checked {normalize : JsString → JsString} {check : JsString → Bool}
    {raw s : JsString} (decoded : decodeBranded normalize check raw = some s) : check s = true := by
  rw [decodeBranded] at decoded
  split at decoded
  · rename_i checked
    cases decoded
    exact checked
  · cases decoded

/-- What the server reads of a handle is not empty. -/
theorem readHandle_filled {read : CustomerHandle} (given : readHandle u handle = some read) :
    read.nameKana ≠ [] ∧ read.phoneLast4 ≠ [] := by
  simp only [readHandle, Option.bind_eq_bind, Option.bind_eq_some_iff] at given
  obtain ⟨nameKana, name, phoneLast4, phone, same⟩ := given
  cases same
  have nameChecked : isNameKana nameKana = true := decodeBranded_checked name
  have phoneChecked : isPhoneLast4 phoneLast4 = true := decodeBranded_checked phone
  constructor
  · rintro rfl
    cases nameChecked
  · rintro rfl
    cases phoneChecked

end

/-! ### What a request comes to -/

section
variable {u : Unicode} {ticketId : JsString} {handle : CustomerHandle} {passage : Passage}
  {object : DurableObject}

/-- A request gets lost, or is served and then answered or not. -/
theorem Passage.carry_cases {serve : Env → DurableObject → HttpReply × DurableObject} :
    (passage.carry serve object = (.error "NetworkError", object) ∧ passage.reached = false) ∨
      passage.reached = true ∧
        (passage.carry serve object).2 = (serve passage.env object).2 ∧
        (passage.carry serve object).1 =
          if passage.answered then Api.result (serve passage.env object).1
          else .error "NetworkError" := by
  unfold Passage.carry
  cases passage.reached with
  | false => exact .inl ⟨rfl, rfl⟩
  | true => exact .inr ⟨rfl, rfl, rfl⟩

theorem respondUnregister_rows {env : Env} {request : HttpRequest} :
    (object.respondUnregister u env request).2.store = object.store ∧
      (object.respondUnregister u env request).2.shop.pushSubscriptions.Sublist
        object.shop.pushSubscriptions := by
  unfold DurableObject.respondUnregister
  split
  · exact ⟨rfl, List.Sublist.refl _⟩
  · rename_i id read endpoint _
    refine ⟨Shop.unregisterPushSubscription_store _ _ _ _, ?_⟩
    simp only [Shop.unregisterPushSubscription]
    split
    · exact List.Sublist.refl _
    · split
      · exact List.Sublist.refl _
      · exact List.filter_sublist

/-- After a withdrawal which is answered well the endpoint is not registered for the ticket, unless
there is no such ticket. -/
theorem respondUnregister_ok {env : Env} {endpoint : JsString}
    (answered : Api.result (object.respondUnregister u env
      (Api.unregisterPushSubscription ticketId handle endpoint)).1 = .ok ()) :
    ∃ id, decodeTicketId ticketId = some id ∧ (object.store.row id = none ∨
      ∀ r ∈ (object.respondUnregister u env
        (Api.unregisterPushSubscription ticketId handle endpoint)).2.shop.pushSubscriptions,
        r.ticketId = id → r.endpoint ≠ usvString endpoint) := by
  unfold DurableObject.respondUnregister at answered ⊢
  cases sent : unregisterPushRoute u env
      (Api.unregisterPushSubscription ticketId handle endpoint) with
  | error response =>
    rw [sent] at answered
    cases answered
  | ok asked =>
    obtain ⟨id, read, text⟩ := asked
    obtain ⟨path, _, rfl⟩ := unregisterPushRoute_read sent
    refine ⟨id, path, ?_⟩
    simp only [sent] at answered
    simp only [Shop.unregisterPushSubscription] at answered ⊢
    cases found : object.shop.store.row id with
    | none => exact .inl rfl
    | some row =>
      right
      simp only [found] at answered ⊢
      split at answered
      · cases answered
      · rename_i answers
        rw [if_neg answers]
        intro r mem own same
        have apart := (List.mem_filter.mp mem).2
        simp [own, same] at apart

/-- A registration is refused, or is one for an active ticket of the customer. -/
theorem respondRegister_cases {env : Env} {endpoint p256dh auth : JsString} :
    ((object.respondRegister u env (Api.registerPushSubscription ticketId handle endpoint p256dh
        auth)).2 = object ∧
      Api.result (object.respondRegister u env (Api.registerPushSubscription ticketId handle
        endpoint p256dh auth)).1 ≠ .ok ()) ∨
    ∃ id read row, decodeTicketId ticketId = some id ∧ readHandle u handle = some read ∧
      object.store.row id = some row ∧ row.state.isActive = true ∧ row.answersTo read = true ∧
      (object.respondRegister u env (Api.registerPushSubscription ticketId handle endpoint p256dh
        auth)).2 = { object with
          shop.pushSubscriptions := PushStore.register id
            ⟨usvString endpoint, usvString p256dh, usvString auth⟩ object.shop.pushSubscriptions } ∧
      Api.result (object.respondRegister u env (Api.registerPushSubscription ticketId handle
        endpoint p256dh auth)).1 = .ok () := by
  unfold DurableObject.respondRegister
  cases sent : registerPushRoute u env
      (Api.registerPushSubscription ticketId handle endpoint p256dh auth) with
  | error response => exact .inl ⟨rfl, nofun⟩
  | ok asked =>
    obtain ⟨id, read, subscription⟩ := asked
    obtain ⟨path, given, rfl⟩ := registerPushRoute_read sent
    simp only [Shop.registerPushSubscription]
    cases found : object.shop.store.row id with
    | none => exact .inl ⟨rfl, nofun⟩
    | some row =>
      dsimp only
      split
      · exact .inl ⟨rfl, nofun⟩
      rename_i active
      split
      · exact .inl ⟨rfl, nofun⟩
      rename_i answers
      refine .inr ⟨id, read, row, path, given, found, ?_, ?_, rfl, rfl⟩
      · simpa [TicketState.isActive] using active
      · simpa using answers

/-- A registration whose answer comes back if it arrives. -/
theorem SubscribeFlow.register_cases {flow : SubscribeFlow} {keys : JsString × JsString}
    (heard : passage.reached = true → passage.answered = true) :
    (∃ tag, flow.register u keys passage object = (.error tag, object)) ∨
      ∃ id read row, decodeTicketId flow.ticketId = some id ∧
        readHandle u flow.handle = some read ∧ object.store.row id = some row ∧
        row.state.isActive = true ∧ row.answersTo read = true ∧
        flow.register u keys passage object = (.ok (), { object with
          shop.pushSubscriptions := PushStore.register id
            ⟨usvString flow.subscription.address, usvString keys.1, usvString keys.2⟩
              object.shop.pushSubscriptions }) := by
  rw [SubscribeFlow.register]
  rcases @Passage.carry_cases passage object (fun env => DurableObject.respondRegister u env
    (Api.registerPushSubscription flow.ticketId flow.handle flow.subscription.address keys.1
      keys.2)) with ⟨lost, _⟩ | ⟨reached, after, told⟩
  · exact .inl ⟨_, lost⟩
  · rw [if_pos (heard reached)] at told
    rcases @respondRegister_cases u flow.ticketId flow.handle object passage.env
      flow.subscription.address keys.1 keys.2 with
      ⟨same, refused⟩ | ⟨id, read, row, path, given, found, active, answers, same, ok⟩
    · cases answer : Api.result (object.respondRegister u passage.env
        (Api.registerPushSubscription flow.ticketId flow.handle flow.subscription.address keys.1
          keys.2)).1 with
      | error tag => exact .inl ⟨tag, Prod.ext (told.trans answer) (after.trans same)⟩
      | ok => exact absurd answer refused
    · exact .inr ⟨id, read, row, path, given, found, active, answers,
        Prod.ext (told.trans ok) (after.trans same)⟩

end

/-! ### What a step does to the rows of a customer -/

section
variable {u : Unicode} {instants : InstantText} {scan : List TicketRow → List TicketRow}
  {earlier : Instant → Int → Bool} {config : AlarmConfig} {object : DurableObject}
  {handle : CustomerHandle} {id : TicketId}

/-- A ticket stays, with its handle, and is active only if it has been. -/
theorem steps_row {interval : Nat} {s s' : DurableStore} {r : TicketRow}
    (steps : Steps u interval s s') (kept : s.Kept) (row : s.row id = some r) :
    ∃ r', s'.row id = some r' ∧ r'.nameKana = r.nameKana ∧ r'.phoneLast4 = r.phoneLast4 ∧
      (r'.state.isActive = true → r.state.isActive = true) := by
  have named : ∃ r', s'.row id = some r' ∧ r'.nameKana = r.nameKana ∧
      r'.phoneLast4 = r.phoneLast4 := by
    refine (Steps.invariant (P := fun t => ∃ r', t.row id = some r' ∧ r'.nameKana = r.nameKana ∧
      r'.phoneLast4 = r.phoneLast4) steps kept ⟨r, row, rfl, rfl⟩ ?_ ?_).2
    · rintro t t' ports input all keptBefore ⟨r', before, same⟩ issued
      have different : id ≠ ports.newTicketId := by
        intro taken
        rw [taken, (issued.absent keptBefore).2] at before
        cases before
      exact ⟨r', (issued.untouched keptBefore different).row.trans before, same⟩
    · rintro t t' loaded result keptBefore ⟨r', before, same⟩ moved
      by_cases own : id = loaded.state.id
      · subst own
        have present : t.row (ticketColumns result.ticket (loaded.revision + [result.event].length)
            ⟨result.ticket⟩).id = some r' := by
          change t.row result.ticket.id = some r'
          rw [moved.move.sameCore.id]
          exact before
        have after := @DurableStore.row_commit t interval loaded.state.id loaded.revision
          [result.event] result.ticket keptBefore.tidy.ticketsKeyed moved.move.sameCore.id
          loaded.state.id
        rw [if_pos rfl, ← moved.store, DurableStore.stored_present present] at after
        exact ⟨_, after, same⟩
      · exact ⟨r', (moved.untouched keptBefore own).row.trans before, same⟩
  obtain ⟨r', after, name, phone⟩ := named
  refine ⟨r', after, name, phone, fun active => ?_⟩
  cases finished : r.state.isTerminal with
  | false => simp [TicketState.isActive, finished]
  | true =>
    have same := (steps_terminal steps kept row finished).2.row
    rw [after, row] at same
    cases same
    exact active

theorem serve_row {event : ObjectEvent} {r : TicketRow} (kept : object.store.Kept)
    (row : object.store.row id = some r) :
    ∃ r', (object.serve u instants scan earlier config event).store.row id = some r' ∧
      r'.nameKana = r.nameKana ∧ r'.phoneLast4 = r.phoneLast4 ∧
        (r'.state.isActive = true → r.state.isActive = true) := by
  rw [DurableObject.serve_store]
  cases object.dispatches event with
  | none => exact ⟨r, row, rfl, rfl, fun active => active⟩
  | some call => exact steps_row (dispatch_steps kept) kept row

/-- An empty column answers to nothing that has a text. -/
theorem column_of_getD {column : Option JsString} {text : JsString} (filled : text ≠ [])
    (same : column.getD [] = text) : column = some text := by
  cases column with
  | none => exact absurd same.symm filled
  | some stored => exact congrArg some same

theorem answersTo_columns (filled : handle.nameKana ≠ [] ∧ handle.phoneLast4 ≠ [])
    {r : TicketRow} (answers : r.answersTo handle = true) :
    r.nameKana = some handle.nameKana ∧ r.phoneLast4 = some handle.phoneLast4 := by
  simp only [TicketRow.answersTo, Bool.and_eq_true, constantTimeStringEqual_iff] at answers
  exact ⟨column_of_getD filled.1 answers.1, column_of_getD filled.2 answers.2⟩

/-- Two active tickets of one customer are one. -/
theorem answering_unique {s : DurableStore} (kept : s.Kept)
    (filled : handle.nameKana ≠ [] ∧ handle.phoneLast4 ≠ []) {r q : TicketRow}
    (hr : r ∈ s.tickets) (hq : q ∈ s.tickets) (activeR : r.state.isActive = true)
    (activeQ : q.state.isActive = true) (answersR : r.answersTo handle = true)
    (answersQ : q.answersTo handle = true) : r.id = q.id := by
  by_contra different
  obtain ⟨nameR, phoneR⟩ := answersTo_columns filled answersR
  obtain ⟨nameQ, phoneQ⟩ := answersTo_columns filled answersQ
  have clash : clashesWith r q = true := by
    rw [clashesWith_iff, nameR, phoneR, nameQ, phoneQ]
    exact ⟨Ne.symm different, activeQ, activeR, rfl, rfl, rfl, rfl⟩
  rw [kept.unclashed r hr q hq] at clash
  cases clash

theorem answersTo_congr {r r' : TicketRow} (name : r'.nameKana = r.nameKana)
    (phone : r'.phoneLast4 = r.phoneLast4) : r'.answersTo handle = r.answersTo handle := by
  rw [TicketRow.answersTo, name, phone, TicketRow.answersTo]

/-! ### The rows of the subscriptions -/

theorem keyed_register {ticketId : TicketId} {subscription : PushSubscription}
    {rows : List PushRow} (keyed : (rows.map (fun r => (r.ticketId, r.endpoint))).Nodup) :
    ((PushStore.register ticketId subscription rows).map
      (fun r => (r.ticketId, r.endpoint))).Nodup :=
  Table.distinct_put (fun _ _ _ => rfl) keyed

theorem mem_register_self {ticketId : TicketId} {subscription : PushSubscription}
    {rows : List PushRow} (keyed : (rows.map (fun r => (r.ticketId, r.endpoint))).Nodup) :
    (⟨subscription, ticketId⟩ : PushRow) ∈ PushStore.register ticketId subscription rows := by
  refine (Table.mem_put keyed).mpr (.inr ?_)
  unfold Table.upserted
  split <;> rfl

end

/-! ### What every step keeps -/

section
variable (u : Unicode) (own : String → Bool) (page : CustomerHandle)

/-- The endpoints of a device are known to it alone; its page serves one customer, runs one call of
`subscribeToPush` at a time, gets its withdrawals through, and hears of what it registered. It
unsubscribes when the customer's ticket is finished. -/
def PushWorld.Orderly (world : PushWorld) : PushMoment → Prop
  | .served event => ∀ ticketId handle subscription,
      event = .registerPushSubscription ticketId handle subscription →
        own subscription.endpoint = false
  | .begun setting ticketId handle => world.flow = none ∧
      ∀ flow, (world.device.subscribeToPush setting ticketId handle).1 = .ok flow →
        flow.handle = page ∧ own (usvString flow.subscription.address) = true
  | .reconciled passage => ∀ flow stale, world.flow = some flow → flow.stale = some stale →
      (flow.withdraw u stale passage world.object).1 = .ok ()
  | .posted passage => passage.reached = true → passage.answered = true
  | .unsubscribed _ _ _ _ => ∀ read, readHandle u page = some read →
      ∀ row ∈ world.object.store.tickets, row.answersTo read = true → row.state.isActive = false
  | .rotated _ | .stopped => True

/-- The call withdraws whatever is registered, or has nothing registered for its ticket but what it
is to register anew. -/
structure SubscribeFlow.Ready (object : DurableObject) (flow : SubscribeFlow) : Prop where
  handle : flow.handle = page
  address : own (usvString flow.subscription.address) = true
  stale : ∀ stale, flow.stale = some stale →
    ∀ r ∈ object.liveRows own, r.endpoint = usvString stale
  fresh : flow.stale = none → ∀ r ∈ object.liveRows own,
    decodeTicketId flow.ticketId = some r.ticketId →
      r.endpoint = usvString flow.subscription.address

/-- The rows of the device, of which the page remembers the one that counts. -/
structure PushWorld.Registered (world : PushWorld) : Prop where
  kept : world.object.store.Kept
  keyed : (world.object.shop.pushSubscriptions.map (fun r => (r.ticketId, r.endpoint))).Nodup
  held : ∀ r ∈ world.object.shop.pushSubscriptions, own r.endpoint = true →
    ∃ read row, readHandle u page = some read ∧
      world.object.store.row r.ticketId = some row ∧ row.answersTo read = true
  remembered : ∀ r ∈ world.object.liveRows own,
    world.device.lastEndpoint.map usvString = some r.endpoint
  flow : ∀ flow, world.flow = some flow → flow.Ready own page world.object

end

section
variable {u : Unicode} {instants : InstantText} {scan : List TicketRow → List TicketRow}
  {earlier : Instant → Int → Bool} {config : AlarmConfig} {own : String → Bool}
  {page : CustomerHandle} {world : PushWorld} {object : DurableObject}

theorem mem_liveRows {r : PushRow} : r ∈ object.liveRows own ↔
    r ∈ object.shop.pushSubscriptions ∧ own r.endpoint = true ∧
      ∃ row, object.store.row r.ticketId = some row ∧ row.state.isActive = true := by
  simp [DurableObject.liveRows, Option.any_eq_true]

/-- A call begins with what is remembered, and remembers nothing new. -/
theorem PushDevice.subscribeToPush_last {device : PushDevice} {setting : SubscribeSetting}
    {ticketId : JsString} {handle : Option CustomerHandle} :
    (device.subscribeToPush setting ticketId handle).2.lastEndpoint = device.lastEndpoint ∧
      ∀ flow, (device.subscribeToPush setting ticketId handle).1 = .ok flow →
        flow.stale = device.lastEndpoint.filter
          (fun last => last ≠ flow.subscription.address) := by
  have kept : (device.subscribe setting).2.lastEndpoint = device.lastEndpoint := by
    unfold PushDevice.subscribe
    split <;> rfl
  unfold PushDevice.subscribeToPush
  split
  · exact ⟨rfl, nofun⟩
  split
  · exact ⟨rfl, nofun⟩
  split
  · exact ⟨rfl, nofun⟩
  split
  · exact ⟨rfl, nofun⟩
  split
  · exact ⟨rfl, nofun⟩
  split
  · exact ⟨rfl, nofun⟩
  split
  · rename_i subscribed
    rw [subscribed] at kept
    exact ⟨kept, nofun⟩
  · rename_i subscribed
    rw [subscribed] at kept
    split
    · exact ⟨kept, nofun⟩
    · refine ⟨kept, fun flow same => ?_⟩
      cases same
      rw [← kept]

theorem SubscribeFlow.Ready.fewer {flow : SubscribeFlow} (ready : flow.Ready own page object)
    {object' : DurableObject} (left : ∀ r ∈ object'.liveRows own, r ∈ object.liveRows own) :
    flow.Ready own page object' where
  handle := ready.handle
  address := ready.address
  stale := fun stale same r mem => ready.stale stale same r (left r mem)
  fresh := fun done r mem => ready.fresh done r (left r mem)

namespace PushWorld.Registered

/-- Fewer rows of the device, at a shop where no finished ticket has come back. -/
theorem fewer (registered : world.Registered u own page) (kept : object.store.Kept)
    (keyed : (object.shop.pushSubscriptions.map (fun r => (r.ticketId, r.endpoint))).Nodup)
    (rows : ∀ id r, world.object.store.row id = some r → ∃ r', object.store.row id = some r' ∧
      r'.nameKana = r.nameKana ∧ r'.phoneLast4 = r.phoneLast4 ∧
        (r'.state.isActive = true → r.state.isActive = true))
    (fewer : ∀ r ∈ object.shop.pushSubscriptions, own r.endpoint = true →
      r ∈ world.object.shop.pushSubscriptions) :
    { world with object }.Registered u own page := by
  have live : ∀ r ∈ object.liveRows own, r ∈ world.object.liveRows own := by
    intro r live
    obtain ⟨mem, mine, row', after, active⟩ := mem_liveRows.mp live
    obtain ⟨read, row, _, found, _⟩ := registered.held r (fewer r mem mine) mine
    obtain ⟨row'', after', _, _, before⟩ := rows _ row found
    cases after.symm.trans after'
    exact mem_liveRows.mpr ⟨fewer r mem mine, mine, row, found, before active⟩
  refine ⟨kept, keyed, ?_, fun r mem => registered.remembered r (live r mem),
    fun flow running => (registered.flow flow running).fewer live⟩
  intro r mem mine
  obtain ⟨read, row, given, found, answers⟩ := registered.held r (fewer r mem mine) mine
  obtain ⟨row', after, name, phone, _⟩ := rows _ row found
  exact ⟨read, row', given, after, (answersTo_congr name phone).trans answers⟩

theorem served (registered : world.Registered u own page) (event : ObjectEvent)
    (others : ∀ ticketId handle subscription,
      event = .registerPushSubscription ticketId handle subscription →
        own subscription.endpoint = false) :
    (world.step u instants scan earlier config (.served event)).Registered u own page := by
  apply registered.fewer (DurableObject.serve_kept registered.kept earlier config event)
  · by_cases registers : ∃ ticketId handle subscription,
        event = .registerPushSubscription ticketId handle subscription
    · obtain ⟨ticketId, handle, subscription, rfl⟩ := registers
      simp only [DurableObject.serve, Shop.registerPushSubscription]
      split
      · exact registered.keyed
      · split
        · exact registered.keyed
        · split
          · exact registered.keyed
          · exact keyed_register registered.keyed
    · exact (serve_sublist (fun ticketId handle subscription same =>
        registers ⟨ticketId, handle, subscription, same⟩)).map _ |>.nodup registered.keyed
  · exact fun id r row => serve_row registered.kept row
  · intro r mem mine
    rcases serve_rows mem with ⟨handle, _, same, _⟩ | ⟨before, _⟩
    · rw [others _ _ _ same] at mine
      cases mine
    · exact before

theorem begun (registered : world.Registered u own page) (setting : SubscribeSetting)
    (ticketId : JsString) (handle : Option CustomerHandle)
    (orderly : world.Orderly u own page (.begun setting ticketId handle)) :
    (world.step u instants scan earlier config (.begun setting ticketId handle)).Registered
      u own page := by
  have last := @PushDevice.subscribeToPush_last world.device setting ticketId handle
  simp only [PushWorld.step]
  generalize ran : world.device.subscribeToPush setting ticketId handle = r at last
  obtain ⟨answer, device⟩ := r
  cases answer with
  | error failure =>
    refine ⟨registered.kept, registered.keyed, registered.held, ?_, registered.flow⟩
    intro r mem
    rw [last.1]
    exact registered.remembered r mem
  | ok flow =>
    obtain ⟨handleOwn, address⟩ := orderly.2 flow (by rw [ran])
    have stale := last.2 flow rfl
    have remembered : ∀ r ∈ world.object.liveRows own,
        world.device.lastEndpoint.map usvString = some r.endpoint := registered.remembered
    refine ⟨registered.kept, registered.keyed, registered.held, ?_, ?_⟩
    · intro r mem
      rw [last.1]
      exact remembered r mem
    · intro flow' running
      cases running
      refine ⟨handleOwn, address, ?_, ?_⟩
      · intro text same r mem
        have known := remembered r mem
        rw [stale, Option.filter_eq_some_iff] at same
        rw [same.1] at known
        exact (Option.some.inj known).symm
      · intro done r mem _
        have known := remembered r mem
        obtain ⟨text, lastText, same⟩ := Option.map_eq_some_iff.mp known
        rw [stale, lastText] at done
        have addressed : text = flow.subscription.address := by simpa using done
        rw [← same, addressed]

/-- Fewer subscriptions at the same tables. -/
theorem withdrawn (registered : world.Registered u own page)
    (store : object.store = world.object.store)
    (fewer : object.shop.pushSubscriptions.Sublist world.object.shop.pushSubscriptions) :
    { world with object }.Registered u own page :=
  registered.fewer (store.symm ▸ registered.kept) ((fewer.map _).nodup registered.keyed)
    (fun id r row => ⟨r, (congrArg (fun s => s.row id) store).trans row, rfl, rfl,
      fun active => active⟩)
    (fun _ mem _ => fewer.subset mem)

theorem reconciled (registered : world.Registered u own page) (passage : Passage)
    (orderly : world.Orderly u own page (.reconciled passage)) :
    (world.step u instants scan earlier config (.reconciled passage)).Registered u own page := by
  cases running : world.flow with
  | none =>
    simp only [PushWorld.step, running]
    exact registered
  | some flow =>
    have ready := registered.flow flow running
    cases first : flow.stale with
    | none =>
      simp only [PushWorld.step, running, first]
      exact registered
    | some stale =>
      have answered := orderly flow stale running first
      have request : (flow.withdraw u stale passage world.object).2 =
          (world.object.respondUnregister u passage.env
            (Api.unregisterPushSubscription flow.ticketId flow.handle stale)).2 ∧
          Api.result (world.object.respondUnregister u passage.env
            (Api.unregisterPushSubscription flow.ticketId flow.handle stale)).1 = .ok () := by
        rw [SubscribeFlow.withdraw] at answered ⊢
        rcases @Passage.carry_cases passage world.object (fun env =>
          DurableObject.respondUnregister u env (Api.unregisterPushSubscription flow.ticketId
            flow.handle stale)) with ⟨lost, _⟩ | ⟨_, after, told⟩
        · rw [lost] at answered
          cases answered
        · rw [told] at answered
          split at answered
          · exact ⟨after, answered⟩
          · cases answered
      obtain ⟨store, sublist⟩ := @respondUnregister_rows u world.object passage.env
        (Api.unregisterPushSubscription flow.ticketId flow.handle stale)
      obtain ⟨id, path, gone⟩ := respondUnregister_ok request.2
      simp only [PushWorld.step, running, first, request.1]
      obtain ⟨kept, keyed, held, remembered, flows⟩ := registered.withdrawn store sublist
      refine ⟨kept, keyed, held, remembered, ?_⟩
      rintro flow' same
      cases same
      have still := flows flow running
      refine ⟨still.handle, still.address, nofun, fun _ r live own_ => ?_⟩
      -- what was registered for the ticket was the stale endpoint, and it has been withdrawn
      obtain ⟨mem, mine, row, found, _⟩ := mem_liveRows.mp live
      have same : r.ticketId = id := Option.some.inj (own_.symm.trans path)
      rcases gone with nobody | gone
      · rw [store, same, nobody] at found
        cases found
      · exact absurd (still.stale stale first r live) (gone r mem same)

/-- A row of the device for an active ticket is one for the active ticket of the customer. -/
theorem ticket_eq (registered : world.Registered u own page) {r : PushRow} {read : CustomerHandle}
    {row row' : TicketRow} {id : TicketId} (mem : r ∈ world.object.shop.pushSubscriptions)
    (mine : own r.endpoint = true) (found : world.object.store.row r.ticketId = some row)
    (active : row.state.isActive = true) (given : readHandle u page = some read)
    (found' : world.object.store.row id = some row') (active' : row'.state.isActive = true)
    (answers' : row'.answersTo read = true) : r.ticketId = id := by
  obtain ⟨read', row'', given', found'', answers⟩ := registered.held r mem mine
  cases given.symm.trans given'
  cases found.symm.trans found''
  obtain ⟨inTable, rowId⟩ := Table.find_some found
  obtain ⟨inTable', rowId'⟩ := Table.find_some found'
  have one : row.id = row'.id := answering_unique registered.kept (readHandle_filled given) inTable
    inTable' active active' answers answers'
  exact rowId.symm.trans (one.trans rowId')

/-- After a registration the device has no other row that counts. -/
theorem accepted (registered : world.Registered u own page) {flow : SubscribeFlow}
    (running : world.flow = some flow) (done : flow.stale = none) {id : TicketId}
    {read : CustomerHandle} {row : TicketRow} (subscription : PushSubscription)
    (path : decodeTicketId flow.ticketId = some id)
    (given : readHandle u flow.handle = some read) (found : world.object.store.row id = some row)
    (active : row.state.isActive = true) (answers : row.answersTo read = true)
    (endpoint : subscription.endpoint = usvString flow.subscription.address)
    (same : object = { world.object with
      shop.pushSubscriptions :=
        PushStore.register id subscription world.object.shop.pushSubscriptions }) :
    (object.shop.pushSubscriptions.map (fun r => (r.ticketId, r.endpoint))).Nodup ∧
      (∀ r ∈ object.shop.pushSubscriptions, own r.endpoint = true →
        ∃ read row, readHandle u page = some read ∧ object.store.row r.ticketId = some row ∧
          row.answersTo read = true) ∧
      ⟨subscription, id⟩ ∈ object.liveRows own ∧
      ∀ r ∈ object.liveRows own, r.endpoint = usvString flow.subscription.address ∧
        r.ticketId = id := by
  have ready := registered.flow flow running
  rw [ready.handle] at given
  subst same
  refine ⟨keyed_register registered.keyed, ?_, ?_, ?_⟩
  · intro r mem mine
    rcases mem_register_eq mem with before | rfl
    · exact registered.held r before mine
    · exact ⟨read, row, given, found, answers⟩
  · exact mem_liveRows.mpr ⟨mem_register_self registered.keyed, endpoint ▸ ready.address, row, found,
      active⟩
  · intro r live
    obtain ⟨mem, mine, row', found', active'⟩ := mem_liveRows.mp live
    rcases mem_register_eq mem with before | rfl
    · have sameTicket : r.ticketId = id :=
        registered.ticket_eq before mine found' active' given found active answers
      have was : r ∈ world.object.liveRows own :=
        mem_liveRows.mpr ⟨before, mine, row', found', active'⟩
      exact ⟨ready.fresh done r was (sameTicket ▸ path), sameTicket⟩
    · exact ⟨endpoint, rfl⟩

theorem ended (registered : world.Registered u own page) :
    { world with flow := none }.Registered u own page :=
  ⟨registered.kept, registered.keyed, registered.held, registered.remembered, nofun⟩

/-- The last request: it leaves the shop as it is, or the device with one row, which the page
remembers next. -/
theorem finished (registered : world.Registered u own page) {flow : SubscribeFlow}
    (running : world.flow = some flow) (done : flow.stale = none) {passage : Passage}
    (heard : passage.reached = true → passage.answered = true) :
    (world.finish u flow passage).2.Registered u own page ∧
      ∀ endpoint, (world.finish u flow passage).1 = .subscribed endpoint →
        ∃ r ∈ (world.finish u flow passage).2.object.liveRows own,
          r.endpoint = usvString endpoint := by
  unfold PushWorld.finish
  cases read : flow.subscription.keys with
  | error failure =>
    obtain ⟨reason, rfl⟩ := BrowserSubscription.keys_error read
    exact ⟨registered.ended, nofun⟩
  | ok keys =>
    dsimp only
    rcases @SubscribeFlow.register_cases u passage world.object flow keys heard with
      ⟨tag, refused⟩ | ⟨id, read, row, path, given, found, active, answers, sent⟩
    · rw [refused]
      exact ⟨registered.ended, nofun⟩
    · obtain ⟨keyed, held, here, only⟩ := registered.accepted running done
        ⟨usvString flow.subscription.address, usvString keys.1, usvString keys.2⟩ path given found
        active answers rfl rfl
      rw [sent]
      refine ⟨⟨registered.kept, keyed, held, fun r live => ?_, nofun⟩, ?_⟩
      · rw [(only r live).1]
        rfl
      · intro endpoint same
        cases same
        exact ⟨_, here, rfl⟩

theorem posted (registered : world.Registered u own page) (passage : Passage)
    (heard : passage.reached = true → passage.answered = true) :
    (world.step u instants scan earlier config (.posted passage)).Registered u own page := by
  cases running : world.flow with
  | none =>
    simp only [PushWorld.step, running]
    exact registered
  | some flow =>
    simp only [PushWorld.step, running]
    split
    · rename_i done
      exact (registered.finished running done heard).1
    · exact registered

theorem unsubscribed (registered : world.Registered u own page) (dropped : Bool)
    (ticketId : JsString) (handle : Option CustomerHandle) (passage : Passage)
    (finished : world.Orderly u own page (.unsubscribed dropped ticketId handle passage)) :
    (world.step u instants scan earlier config
      (.unsubscribed dropped ticketId handle passage)).Registered u own page := by
  -- the shop has reaped what the device had registered
  have nothing : ∀ r, r ∉ world.object.liveRows own := by
    intro r live
    obtain ⟨mem, mine, row, found, active⟩ := mem_liveRows.mp live
    obtain ⟨read, row', given, found', answers⟩ := registered.held r mem mine
    cases found.symm.trans found'
    rw [finished read given row (Table.find_some found).1 answers] at active
    cases active
  have forgets : ∀ (object : DurableObject) (subscription : Option BrowserSubscription),
      object.store = world.object.store → object.shop.pushSubscriptions.Sublist
        world.object.shop.pushSubscriptions →
      { world with object, device := ⟨subscription, none⟩ }.Registered u own page := by
    intro object subscription store fewer
    obtain ⟨kept, keyed, held, _, flows⟩ := registered.withdrawn store fewer
    refine ⟨kept, keyed, held, fun r live => ?_, flows⟩
    obtain ⟨mem, mine, row, found, active⟩ := mem_liveRows.mp live
    exact absurd (mem_liveRows.mpr ⟨fewer.subset mem, mine, row, store ▸ found, active⟩) (nothing r)
  simp only [PushWorld.step, PushWorld.unsubscribeFromPush]
  cases world.device.subscription with
  | none => exact registered
  | some subscription =>
    cases handle with
    | none => exact forgets world.object _ rfl (List.Sublist.refl _)
    | some handle =>
      obtain ⟨store, fewer⟩ := @respondUnregister_rows u world.object passage.env
        (Api.unregisterPushSubscription ticketId handle subscription.endpoint)
      rcases @Passage.carry_cases passage world.object (fun env =>
        DurableObject.respondUnregister u env (Api.unregisterPushSubscription ticketId handle
          subscription.endpoint)) with ⟨lost, _⟩ | ⟨_, after, _⟩
      · dsimp only
        rw [lost]
        exact forgets world.object _ rfl (List.Sublist.refl _)
      · dsimp only
        rw [after]
        exact forgets _ _ store fewer

theorem step (registered : world.Registered u own page) (moment : PushMoment)
    (orderly : world.Orderly u own page moment) :
    (world.step u instants scan earlier config moment).Registered u own page := by
  cases moment with
  | served event => exact registered.served event orderly
  | rotated subscription =>
    exact ⟨registered.kept, registered.keyed, registered.held, registered.remembered,
      registered.flow⟩
  | begun setting ticketId handle => exact registered.begun setting ticketId handle orderly
  | reconciled passage => exact registered.reconciled passage orderly
  | posted passage => exact registered.posted passage orderly
  | stopped => exact registered.ended
  | unsubscribed dropped ticketId handle passage =>
    exact registered.unsubscribed dropped ticketId handle passage orderly

/-- Two rows which count are one. -/
theorem one (registered : world.Registered u own page) : (world.object.liveRows own).length ≤ 1 := by
  have same : ∀ r ∈ world.object.liveRows own, ∀ q ∈ world.object.liveRows own, r = q := by
    intro r liveR q liveQ
    obtain ⟨memR, mineR, rowR, foundR, activeR⟩ := mem_liveRows.mp liveR
    obtain ⟨memQ, mineQ, rowQ, foundQ, activeQ⟩ := mem_liveRows.mp liveQ
    obtain ⟨read, rowQ', given, foundQ', answersQ⟩ := registered.held q memQ mineQ
    cases foundQ.symm.trans foundQ'
    have ticket : r.ticketId = q.ticketId :=
      registered.ticket_eq memR mineR foundR activeR given foundQ activeQ answersQ
    have endpoint := (registered.remembered r liveR).symm.trans (registered.remembered q liveQ)
    apply List.inj_on_of_nodup_map registered.keyed memR memQ
    exact Prod.ext ticket (Option.some.inj endpoint)
  have distinct : (world.object.liveRows own).Nodup :=
    registered.keyed.of_map.sublist List.filter_sublist
  cases rows : world.object.liveRows own with
  | nil => exact Nat.zero_le 1
  | cons r rest =>
    cases rest with
    | nil => exact le_rfl
    | cons q rest =>
      rw [rows] at same distinct
      cases same r List.mem_cons_self q (List.mem_cons_of_mem r List.mem_cons_self)
      exact absurd List.mem_cons_self (List.nodup_cons.mp distinct).1

end PushWorld.Registered

end

namespace Sample

def pushEnv : Env := { env none with
  parseUrl := fun _ => some ⟨"https:", "fcm.googleapis.com"⟩ }

def through : Passage := ⟨pushEnv, true, true⟩

def firstEndpoint : String := "https://fcm.googleapis.com/fcm/send/1"

def secondEndpoint : String := "https://fcm.googleapis.com/fcm/send/2"

def browserAt (endpoint : String) : BrowserSubscription :=
  ⟨jsString endpoint, ⟨none, none, none⟩, some [1], some [2]⟩

def willing : SubscribeSetting :=
  ⟨true, true, .ok (), .ok (browserAt firstEndpoint), fun _ => false⟩

def subscribing : PushMoment :=
  .begun willing (jsString "tkt_00000000000000000000000001") (some handle)

/-- A customer subscribes, and subscribes anew after the browser has changed the subscription. -/
def rotating : List PushMoment :=
  [.served (.dispatch (atTwo 1) (.issueTicket handle none none none)), subscribing, .posted through,
    .rotated (some (browserAt secondEndpoint)), subscribing, .reconciled through, .posted through]

def pushStep : PushWorld → PushMoment → PushWorld :=
  PushWorld.step unicode noInstants id Instant.before config

/-- The second call, before its withdrawal. -/
def rotated : PushWorld := (rotating.take 5).foldl pushStep .empty

end Sample

end SlotBooking
