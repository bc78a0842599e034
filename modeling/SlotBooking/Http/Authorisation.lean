import SlotBooking.Http.Router
import SlotBooking.Runs.Ownership
import SlotBooking.Shop.Capacity

/-! Who may change a ticket. A request which staff does not vouch for changes at most the ticket
whose handle it carries, but for a check-in, and for a reschedule under an empty secret. -/
namespace SlotBooking

section
variable (u : Unicode) (instants : InstantText) (env : Env) (ports : Ports) (request : HttpRequest)

/-- The handle in the body, as the boundary reads it. -/
def suppliedHandle : Option CustomerHandle :=
  match request.body with
  | .json (.object members) => do
    let nameKana ← (members.lookup "nameKana").bind (nameKanaOf u)
    let phoneLast4 ← (members.lookup "phoneLast4").bind phoneLast4Of
    return { nameKana, phoneLast4 }
  | _ => none

/-- The ticket is stored, and the request carries its handle. -/
def SuppliesHandle (s : DurableStore) (id : TicketId) : Prop :=
  ∃ loaded, Durable.load u s id = .ok loaded ∧ suppliedHandle u request = some loaded.state.handle

/-- One ticket at most has changed, and the request carries the handle it had. -/
def OnlyHolderChanges (s s' : DurableStore) : Prop :=
  ∀ id, ¬ s.Untouched id s' →
    SuppliesHandle u request s id ∧ ∀ other, other ≠ id → s.Untouched other s'

/-- A check-in which goes through carries the handle, and so does a reschedule which goes through
because the secret and the header are both empty. -/
def HandleGuarded (s : DurableStore) : Route → Prop
  | .registered .checkIn => env.limit .verify ≠ some false → ∀ id,
      decodeTicketId request.id = some id → Arrives u ports id s → SuppliesHandle u request s id
  | .reschedule => env.staffSessionSecret = some [] → request.header "x-staff-token" = some [] →
      env.limit .verify ≠ some false → ∀ id raw body target,
        decodeTicketId request.id = some id → request.body = .json raw →
        decodeRescheduleBody u raw = .ok body →
        instants.decode body.newAppointmentAt = some target →
        Reschedules u ports ⟨id, target, env.granularity, env.tz, env.capacity, .staff, none⟩ s →
        SuppliesHandle u request s id
  | _ => True

end

section
variable {u : Unicode} {instants : InstantText} {env : Env} {ports : Ports} {request : HttpRequest}
  {s : DurableStore} {id : TicketId} {c : UseCase} {action : QueueAction}

/-! ### Routes -/

/-- Without staff, a cancellation carries the handle on. -/
theorem cancelRoute_handle (refused : requireStaff env request ≠ .ok ())
    (sent : cancelRoute u env request = .ok action) : ∃ id reason handle,
      action = .cancelTicket id .customer reason (some handle) ∧
        suppliedHandle u request = some handle := by
  simp only [cancelRoute, Effect.except_bind_eq_ok] at sent
  obtain ⟨_, _, raw, parsed, id, _, sent⟩ := sent
  split at sent
  · simp only [Effect.except_bind_eq_ok] at sent
    obtain ⟨_, accepted, _⟩ := sent
    exact absurd accepted refused
  · simp only [Effect.except_bind_eq_ok, decodeCancelBody, handleFields, members_ok,
      requiredField_ok] at sent
    obtain ⟨body, ⟨members, rfl, handle, ⟨nameKana, name, phoneLast4, phone, same⟩, reason, _,
      built⟩, same'⟩ := sent
    cases same
    cases built
    cases same'
    refine ⟨id, reason, _, rfl, ?_⟩
    rw [suppliedHandle, parseJsonBody_ok.mp parsed]
    simp [name, phone]

/-- Whoever is staff to the reschedule route alone presents an empty secret. -/
theorem rescheduleIsStaff_refused (refused : requireStaff env request ≠ .ok ()) :
    rescheduleIsStaff env request = true ↔ env.staffSessionSecret = some [] ∧
      request.header "x-staff-token" = some [] := by
  rw [rescheduleIsStaff_iff]
  constructor
  · rintro ⟨secret, set, presented⟩
    by_cases empty : secret = []
    · exact ⟨empty ▸ set, empty ▸ presented⟩
    · exact absurd ((requireStaff_set set empty).mpr (.inl (acceptsHeaderToken_self presented)))
        refused
  · exact fun ⟨set, presented⟩ => ⟨[], set, presented⟩

theorem rescheduleBody_handle {raw : Json} {body : RescheduleBody} {handle : CustomerHandle}
    (parsed : request.body = .json raw) (decoded : decodeRescheduleBody u raw = .ok body)
    (given : body.handle = some handle) : suppliedHandle u request = some handle := by
  simp only [decodeRescheduleBody, Effect.except_bind_eq_ok, members_ok] at decoded
  obtain ⟨members, rfl, nameKana, name, phoneLast4, phone, newAppointmentAt, _, same⟩ := decoded
  cases same
  simp only [RescheduleBody.handle, bind, Option.bind_eq_some_iff, pure, Option.some.injEq] at given
  obtain ⟨nameKana, rfl, phoneLast4, rfl, rfl⟩ := given
  rw [suppliedHandle, parsed]
  simp [optionalField_some name, optionalField_some phone]

/-! ### Commands -/

theorem onlyHolderChanges_refl : OnlyHolderChanges u request s s :=
  fun _ changed => absurd ⟨rfl, rfl, rfl⟩ changed

/-- A command on one ticket keeps to the rule just where it changes nothing or its request carries
the handle. -/
theorem onlyHolderChanges_own (kept : s.Kept) (target : c.target = some id) :
    OnlyHolderChanges u request s (c.run (Durable.repository u Durable.snapshotInterval) ports s).2 ↔
      ((c.run (Durable.repository u Durable.snapshotInterval) ports s).2 ≠ s →
        SuppliesHandle u request s id) := by
  have own := @call_own u Durable.snapshotInterval s id c kept ports target
  generalize (c.run (Durable.repository u Durable.snapshotInterval) ports s).2 = s' at own ⊢
  rcases own with rfl | ⟨loaded, result, rfl, _, moved⟩
  · exact iff_of_true onlyHolderChanges_refl (fun changed => absurd rfl changed)
  · have changed : s' ≠ s := by
      rintro rfl
      exact moved.changes kept ⟨rfl, rfl, rfl⟩
    constructor
    · exact fun only _ => (only _ (moved.changes kept)).1
    · intro supplies id changedHere
      have here : id = loaded.state.id := by
        by_contra elsewhere
        exact changedHere (moved.untouched kept elsewhere)
      subst here
      exact ⟨supplies changed, fun other elsewhere => moved.untouched kept elsewhere⟩

theorem reschedule_changes_iff (kept : s.Kept) {input : RescheduleTicketInput} :
    ((UseCase.rescheduleTicket input).run (Durable.repository u Durable.snapshotInterval) ports
      s).2 ≠ s ↔ Reschedules u ports input s := by
  constructor
  · intro changed
    by_contra unmoved
    exact changed (reschedule_unmoved kept unmoved)
  · intro reschedules same
    obtain ⟨s', loaded, result, ⟨t, ran⟩, moved, _⟩ := reschedules.moved kept
    have ended : (UseCase.rescheduleTicket input).run
        (Durable.repository u Durable.snapshotInterval) ports s = (.ok (.ticket t), s') :=
      Effect.bind_ok ran
    rw [ended] at same
    cases same
    exact moved.changes kept ⟨rfl, rfl, rfl⟩

/-- A command which authenticates a customer changes no ticket of another one. -/
theorem supplies_of_authenticated (kept : s.Kept) {handle : CustomerHandle}
    (supplied : suppliedHandle u request = some handle) (target : c.target = some id)
    (stranger : ∀ loaded, Durable.load u s id = .ok loaded → loaded.state.handle ≠ handle →
      (c.run (Durable.repository u Durable.snapshotInterval) ports s).2 = s)
    (changed : (c.run (Durable.repository u Durable.snapshotInterval) ports s).2 ≠ s) :
    SuppliesHandle u request s id := by
  rcases @call_own u Durable.snapshotInterval s id c kept ports target with
    same | ⟨loaded, _, _, read, _⟩
  · exact absurd same changed
  · refine ⟨loaded, read, ?_⟩
    by_contra other
    refine changed (stranger loaded read ?_)
    rintro rfl
    exact other supplied

/-! ### Requests -/

variable {shop : Shop} {route : Route}

theorem respond_failed {response : FailResponse}
    (failed : route.handler u instants env request = .error response) :
    (shop.respond u instants env ports route request).2 = shop := by
  rw [Shop.respond, failed]

theorem respond_dispatch (sent : route.handler u instants env request = .ok (.dispatch action)) :
    (shop.respond u instants env ports route request).2.store =
      (dispatch u instants ports action shop.store).2 := by
  have stored : (shop.dispatch u instants ports action).2.store =
      (dispatch u instants ports action shop.store).2 := by rw [Shop.dispatch_eq]
  rw [Shop.respond, sent, ← stored]
  simp only [Shop.answer]
  split
  · rename_i done
    rw [done]
  · rename_i done
    rw [done]

/-- The routes of the push subscriptions leave the queue alone. -/
theorem respond_push (push : route = .registerPush ∨ route = .unregisterPush) :
    (shop.respond u instants env ports route request).2.store = shop.store := by
  rw [Shop.respond]
  split
  · rfl
  · rename_i call sent
    rcases push with rfl | rfl
    · simp only [Route.handler, Effect.except_bind_eq_ok] at sent
      obtain ⟨⟨ticketId, handle, subscription⟩, _, same⟩ := sent
      cases same
      simp only [Shop.answer, Shop.registerPushSubscription]
      split <;> [rfl; split <;> [rfl; split <;> rfl]]
    · simp only [Route.handler, Effect.except_bind_eq_ok] at sent
      obtain ⟨⟨ticketId, handle, endpoint⟩, _, same⟩ := sent
      cases same
      simp only [Shop.answer, Shop.unregisterPushSubscription]
      split <;> [rfl; split <;> rfl]

theorem registered_changes_iff (kept : shop.store.Kept)
    (refused : requireStaff env request ≠ .ok ()) {entry : RegisteredRoute}
    (other : entry ≠ .issue) :
    OnlyHolderChanges u request shop.store
        (shop.respond u instants env ports (.registered entry) request).2.store ↔
      HandleGuarded u instants env ports request shop.store (.registered entry) := by
  have unstaffed : (routingRegistry u instants entry).requireStaff = true →
      OnlyHolderChanges u request shop.store
        (shop.respond u instants env ports (.registered entry) request).2.store := by
    intro staff
    cases sent : (routingRegistry u instants entry).handler env request with
    | error response =>
      rw [respond_failed (by rw [Route.handler, sent]; rfl)]
      exact onlyHolderChanges_refl
    | ok action => exact absurd (RoutingEntry.handler_staff staff sent) refused
  cases entry with
  | issue => exact absurd rfl other
  | served | noShow | «recall» | callNext | callSpecific | callBatch =>
    exact iff_of_true (unstaffed rfl) trivial
  | checkIn =>
    cases sent : (routingRegistry u instants .checkIn).handler env request with
    | error response =>
      rw [respond_failed (by rw [Route.handler, sent]; rfl)]
      refine iff_of_true onlyHolderChanges_refl (fun passed id path _ => ?_)
      cases sent.symm.trans (checkIn_handler.mpr ⟨passed, id, path, rfl⟩)
    | ok action =>
      obtain ⟨passed, id, path, rfl⟩ := checkIn_handler.mp sent
      rw [respond_dispatch (by rw [Route.handler, sent]; rfl), dispatch_store rfl,
        onlyHolderChanges_own kept rfl, checkIn_changes_iff kept]
      constructor
      · intro supplies _ other path' arrives
        cases path.symm.trans path'
        exact supplies arrives
      · exact fun guarded arrives => guarded passed id path arrives

/-- As staff, a reschedule authenticates nobody. -/
theorem dispatch_staff_reschedule_iff (kept : s.Kept) {text : String} {g : SlotGranularity}
    {tz : BusinessTimeZone} {capacity : Int} :
    OnlyHolderChanges u request s (dispatch u instants ports
        (.rescheduleTicket id text g tz capacity .staff none) s).2 ↔
      ∀ target, instants.decode text = some target →
        Reschedules u ports ⟨id, target, g, tz, capacity, .staff, none⟩ s →
          SuppliesHandle u request s id := by
  cases read : instants.decode text with
  | none =>
    rw [dispatch_thrown (by rw [QueueAction.useCase, read]; rfl)]
    refine iff_of_true onlyHolderChanges_refl (fun target absent => ?_)
    cases absent
  | some target =>
    rw [dispatch_store (by rw [QueueAction.useCase, read]; rfl), onlyHolderChanges_own kept rfl,
      reschedule_changes_iff kept]
    constructor
    · intro supplies target' same reschedules
      cases same
      exact supplies reschedules
    · exact fun supplies => supplies target rfl

theorem dispatch_customer_reschedule (kept : s.Kept) {text : String} {g : SlotGranularity}
    {tz : BusinessTimeZone} {capacity : Int} {handle : CustomerHandle}
    (supplied : suppliedHandle u request = some handle) :
    OnlyHolderChanges u request s (dispatch u instants ports
      (.rescheduleTicket id text g tz capacity .customer (some handle)) s).2 := by
  cases read : instants.decode text with
  | none =>
    rw [dispatch_thrown (by rw [QueueAction.useCase, read]; rfl)]
    exact onlyHolderChanges_refl
  | some target =>
    rw [dispatch_store (by rw [QueueAction.useCase, read]; rfl), onlyHolderChanges_own kept rfl]
    exact supplies_of_authenticated kept supplied rfl
      (fun loaded found stranger => rescheduleTicket_stranger found rfl stranger)

theorem reschedule_request_iff (kept : shop.store.Kept)
    (refused : requireStaff env request ≠ .ok ()) :
    OnlyHolderChanges u request shop.store
        (shop.respond u instants env ports .reschedule request).2.store ↔
      HandleGuarded u instants env ports request shop.store .reschedule := by
  have staff := @rescheduleIsStaff_refused env request refused
  cases sent : rescheduleRoute u env request with
  | error response =>
    rw [respond_failed (by rw [Route.handler, sent]; rfl)]
    refine iff_of_true onlyHolderChanges_refl
      (fun empty header passed id raw body target path parsed decoded _ _ => ?_)
    cases sent.symm.trans (rescheduleRoute_ok.mpr ⟨passed, id, raw, body, path, parsed, decoded,
      .inl ⟨staff.mpr ⟨empty, header⟩, rfl⟩⟩)
  | ok action =>
    rw [respond_dispatch (by rw [Route.handler, sent]; rfl)]
    obtain ⟨passed, id, raw, body, path, parsed, decoded, ⟨isStaff, rfl⟩ |
      ⟨customer, handle, given, rfl⟩⟩ := rescheduleRoute_ok.mp sent
    · obtain ⟨empty, header⟩ := staff.mp isStaff
      rw [dispatch_staff_reschedule_iff kept]
      constructor
      · intro supplies _ _ _ id' raw' body' target' path' parsed' decoded' read
        cases path.symm.trans path'
        cases parsed.symm.trans parsed'
        cases decoded.symm.trans decoded'
        exact supplies target' read
      · intro guarded target read
        exact guarded empty header passed id raw body target path parsed decoded read
    · refine iff_of_true ?_ (fun empty header => ?_)
      · exact dispatch_customer_reschedule kept (rescheduleBody_handle parsed decoded given)
      · rw [staff.mpr ⟨empty, header⟩] at customer
        cases customer

theorem cancel_request (kept : shop.store.Kept) (refused : requireStaff env request ≠ .ok ()) :
    OnlyHolderChanges u request shop.store
      (shop.respond u instants env ports .cancel request).2.store := by
  cases sent : cancelRoute u env request with
  | error response =>
    rw [respond_failed (by rw [Route.handler, sent]; rfl)]
    exact onlyHolderChanges_refl
  | ok action =>
    obtain ⟨id, reason, handle, rfl, supplied⟩ := cancelRoute_handle refused sent
    rw [respond_dispatch (by rw [Route.handler, sent]; rfl), dispatch_store rfl,
      onlyHolderChanges_own kept rfl]
    exact supplies_of_authenticated kept supplied rfl
      (fun loaded found stranger => cancelTicket_stranger found stranger _ _)

end

/-- After any run of the shop, a request for which staff does not vouch changes at most the ticket
whose handle it carries if and only if it is handle-guarded. -/
theorem only_holder_changes_iff (u : Unicode) (instants : InstantText)
    (earlier : Instant → Int → Bool) (requests : List ShopRequest) (env : Env) (ports : Ports)
    (route : Route) (request : HttpRequest) (mutating : route ≠ .registered .issue)
    (refused : requireStaff env request ≠ .ok ()) :
    let shop := requests.foldl (Shop.serve u instants earlier) .empty
    OnlyHolderChanges u request shop.store
        (shop.respond u instants env ports route request).2.store ↔
      HandleGuarded u instants env ports request shop.store route := by
  intro shop
  have kept : shop.Kept := (Shop.always_kept earlier requests).after
  cases route with
  | registered entry =>
    exact registered_changes_iff kept.store refused (fun same => mutating (by rw [same]))
  | reschedule => exact reschedule_request_iff kept.store refused
  | cancel => exact iff_of_true (cancel_request kept.store refused) trivial
  | registerPush =>
    rw [respond_push (.inl rfl)]
    exact iff_of_true onlyHolderChanges_refl trivial
  | unregisterPush =>
    rw [respond_push (.inr rfl)]
    exact iff_of_true onlyHolderChanges_refl trivial

namespace Sample

/-- Two instants on the wire. -/
def soonAndLater : InstantText where
  decode text :=
    if text = "soon" then some (instant 5) else if text = "later" then some (instant 900) else none
  encode _ := "soon"

/-- A shop in which one customer has reserved. -/
def reservedShop : Shop :=
  [ShopRequest.dispatch (ports 1) (.issueTicket handle none (some .reservation) (some "soon"))].foldl
    (Shop.serve unicode soonAndLater (fun _ _ => false)) .empty

/-- The path of a request names that customer's ticket. -/
def onTicket (name value : String) (body : RequestBody) : HttpRequest :=
  asking "tkt_00000000000000000000000001" name value body

def moveLater : RequestBody := .json (.object [("newAppointmentAt", .string (jsString "later"))])

def responded (secret : JsString) (route : Route) (request : HttpRequest) : DurableStore :=
  (reservedShop.respond unicode soonAndLater (env (some secret)) (ports 2) route request).2.store

end Sample

/-- Whoever knows the id checks the customer in; and under an empty secret an empty header moves
the appointment. -/
theorem stranger_changes_ticket :
    (requireStaff (Sample.env (some (jsString "secret"))) (Sample.onTicket "accept" "" .empty) ≠
        .ok () ∧
      ¬ OnlyHolderChanges Sample.unicode (Sample.onTicket "accept" "" .empty)
        Sample.reservedShop.store (Sample.responded (jsString "secret") (.registered .checkIn)
          (Sample.onTicket "accept" "" .empty))) ∧
    (requireStaff (Sample.env (some [])) (Sample.onTicket "x-staff-token" "" Sample.moveLater) ≠
        .ok () ∧
      ¬ OnlyHolderChanges Sample.unicode (Sample.onTicket "x-staff-token" "" Sample.moveLater)
        Sample.reservedShop.store (Sample.responded [] .reschedule
          (Sample.onTicket "x-staff-token" "" Sample.moveLater))) := by
  have unsupplied : ∀ {request : HttpRequest} {s' : DurableStore},
      suppliedHandle Sample.unicode request = none →
      (s'.log ⟨1⟩).length ≠ (Sample.reservedShop.store.log ⟨1⟩).length →
        ¬ OnlyHolderChanges Sample.unicode request Sample.reservedShop.store s' := by
    intro request s' none_ grown only
    obtain ⟨⟨loaded, _, supplied⟩, _⟩ := only ⟨1⟩
      (fun untouched => grown (congrArg List.length untouched.log))
    cases none_.symm.trans supplied
  refine ⟨⟨by decide +kernel, unsupplied (by decide +kernel) (by decide +kernel)⟩,
    ⟨by decide +kernel, unsupplied (by decide +kernel) (by decide +kernel)⟩⟩

/-- A cancellation by somebody else. -/
theorem only_holder_changes_iff_cancel :
    let request := Sample.onTicket "accept" "" (.json (.object
      [("nameKana", .string Sample.otherHandle.nameKana),
        ("phoneLast4", .string Sample.otherHandle.phoneLast4),
        ("reason", .string (jsString "mine"))]))
    OnlyHolderChanges Sample.unicode request Sample.reservedShop.store
      (Sample.responded (jsString "secret") .cancel request) := by
  intro request
  exact (only_holder_changes_iff Sample.unicode Sample.soonAndLater (fun _ _ => false)
    [.dispatch (Sample.ports 1)
      (.issueTicket Sample.handle none (some .reservation) (some "soon"))]
    (Sample.env (some (jsString "secret"))) (Sample.ports 2) .cancel request (by decide)
    (by decide +kernel)).mpr trivial

end SlotBooking
