import SlotBooking.Http.Authorisation
import SlotBooking.Runs.SlotCounts

/-! Who stands behind an event of the log: whoever it names as having acted has asked for it. -/
namespace SlotBooking

/-- Whoever is said to have acted; an issue names nobody. -/
def EventBody.actor : EventBody → Option Actor
  | .issued _ => none
  | .called actor _ | .servingStarted actor | .movedToOverdue actor | .nudged actor _ _
  | .appointmentLapsed actor _ | .served actor | .noShowed actor | .cancelled actor _
  | .recalled actor | .checkedIn actor | .rescheduled _ _ actor => some actor

/-- Whom the events of a command name. -/
def UseCase.actor : UseCase → Option Actor
  | .issueTicket _ => none
  | .callNext _ actor | .callSpecific _ actor | .callBatch _ _ actor | .markNoShow _ actor
  | .recall _ actor | .cancelTicket _ actor _ _ => some actor
  | .markServed _ => some .staff
  | .moveToOverdue _ | .nudge _ _ | .lapseAppointment _ => some .system
  | .checkIn _ => some .customer
  | .rescheduleTicket input => some input.actor

/-! ### What a command records -/

section
variable {u : Unicode} {s s' : DurableStore} {ports : Ports} {c : UseCase} {e : TicketEvent}
  {id : TicketId}

variable (u ports s) in
/-- An event which the command puts into the log. -/
inductive Records : UseCase → TicketEvent → Prop where
  | issued (input : IssueTicketInput) (all : List Ticket) :
      Records (.issueTicket input) (issueResult ports input s all).event
  | applied (c : UseCase) (loaded : LoadedAggregate) (result : ApplyResult)
      (applies : Applies ((Durable.repository u Durable.snapshotInterval).reads s) ports c loaded
        result) : Records c result.event
  | called (firstId : TicketId) (restIds : List TicketId) (actor : Actor) (t : TicketCommon)
      (index : Nat) :
      Records (.callBatch firstId restIds actor) (applyCall t (batchCallArgs ports actor index)).event

theorem Commit.records (commit : Commit u Durable.snapshotInterval ports s c s')
    (mem : e ∈ s'.eventLog) : e ∈ s.eventLog ∨ Records u s ports c e := by
  cases commit with
  | unchanged => exact .inl mem
  | issued input all _ step =>
    rw [DurableStore.eventLog, step.store, DurableStore.commit_ticketEvents, List.map_append,
      List.mem_append] at mem
    rcases mem with old | new
    · exact .inl old
    · cases List.mem_singleton.mp new
      exact .inr (.issued input all)
  | moved _ loaded result _ applies step =>
    rw [step.eventLog, List.mem_append] at mem
    rcases mem with old | new
    · exact .inl old
    · cases List.mem_singleton.mp new
      exact .inr (.applied c loaded result applies)
  | called firstId restIds actor _ _ steps =>
    induction steps with
    | refl => exact .inl mem
    | tail _ step ih =>
      obtain ⟨t, revision, index, _, moved⟩ := step
      rw [moved.eventLog, List.mem_append] at mem
      rcases mem with old | new
      · exact ih old
      · cases List.mem_singleton.mp new
        exact .inr (.called firstId restIds actor t index)

theorem Records.actor (records : Records u s ports c e) : e.body.actor = c.actor := by
  cases records with
  | issued | called => rfl
  | applied _ loaded result applies =>
    cases applies with
    | lapseAppointment _ _ _ _ _ _ applied =>
      obtain ⟨_, _, rfl⟩ := applyLapseAppointment_eq_some applied
      rfl
    | rescheduleTicket _ _ _ _ _ applied =>
      obtain ⟨_, _, rfl⟩ := applyReschedule_eq_some applied
      rfl
    | _ => rfl

theorem Records.target (records : Records u s ports c e) (kept : s.Kept)
    (target : c.target = some id) : e.ticketId = id := by
  cases records with
  | issued | called => cases target
  | applied _ loaded result applies =>
    have own : ∀ {t revision}, ((Durable.repository u Durable.snapshotInterval).reads s).load id =
        .ok ⟨t, revision⟩ → t.id = id :=
      fun read => load_id kept.tidy (kept.outlined id) read
    cases applies with
    | callNext => cases target
    | callSpecific _ _ _ _ read | cancelTicket _ _ _ _ _ _ _ _ read
    | moveToOverdue _ _ _ _ read | nudge _ _ _ _ _ _ read | checkIn _ _ _ read
    | markServed _ _ _ _ _ _ read | markNoShow _ _ _ _ _ _ _ read
    | «recall» _ _ _ _ _ _ _ read =>
      cases target
      exact own read
    | lapseAppointment _ _ _ _ _ read applied =>
      cases target
      obtain ⟨_, _, rfl⟩ := applyLapseAppointment_eq_some applied
      exact own read
    | rescheduleTicket _ _ _ read _ applied =>
      cases target
      obtain ⟨_, _, rfl⟩ := applyReschedule_eq_some applied
      exact own read

end

/-! ### What reaches the log -/

/-- A request, or an action of the sweep; the pushes of a sweep do not touch the log. -/
inductive Arrival where
  | routed (env : Env) (ports : Ports) (route : Route) (request : HttpRequest)
  | swept (ports : Ports) (tick : Tick) (id : TicketId) (channel : Channel)

section
variable (u : Unicode) (instants : InstantText)

def Shop.receive (shop : Shop) : Arrival → Shop
  | .routed env ports route request => (shop.respond u instants env ports route request).2
  | .swept ports tick id channel => (shop.dispatch u instants ports (tick.action id channel)).2

/-- The guard accepts the request, or the reschedule route takes it for one of the staff. -/
def VouchedFor (env : Env) (route : Route) (request : HttpRequest) : Prop :=
  requireStaff env request = .ok () ∨
    route = .reschedule ∧ rescheduleIsStaff env request = true

/-- The event says of its actor what the arrival bears out: the alarm acts for the system; staff
vouch for what is done in their name; a customer's event is of the ticket in the path, and but for
a check-in the request carries its handle; and a ticket is issued under the handle of the request. -/
def Arrival.Accounts (s : DurableStore) (e : TicketEvent) : Arrival → Prop
  | .swept _ _ id _ => e.body.actor = some .system ∧ e.ticketId = id
  | .routed env _ route request =>
    match e.body.actor with
    | none => route = .registered .issue ∧
        ∃ fields, e.body.fields = some fields ∧ suppliedHandle u request = some fields.toCustomerHandle
    | some .staff => VouchedFor env route request
    | some .customer => decodeTicketId request.id = some e.ticketId ∧
        (route = .registered .checkIn ∨ SuppliesHandle u request s e.ticketId)
    | some .system => False

end

section
variable {u : Unicode} {instants : InstantText} {env : Env} {ports : Ports} {request : HttpRequest}
  {s : DurableStore} {id : TicketId} {c : UseCase} {action : QueueAction} {e : TicketEvent}

theorem dispatch_records (kept : s.Kept) (mem : e ∈ (dispatch u instants ports action s).2.eventLog)
    (new : e ∉ s.eventLog) : ∃ c, action.useCase instants = some c ∧ Records u s ports c e := by
  cases read : action.useCase instants with
  | none =>
    rw [dispatch_thrown read] at mem
    exact absurd mem new
  | some c =>
    rw [dispatch_store read] at mem
    exact ⟨c, rfl, ((call_commit kept ports c).records mem).resolve_left new⟩

/-! ### Routes -/

/-- What the guarded entries of the registry let through is done by staff. -/
theorem registered_actor {entry : RegisteredRoute}
    (staff : (routingRegistry u instants entry).requireStaff = true)
    (sent : (routingRegistry u instants entry).handler env request = .ok action)
    (read : action.useCase instants = some c) : c.actor = some .staff := by
  simp only [RoutingEntry.handler, Effect.except_bind_eq_ok] at sent
  obtain ⟨_, _, _, _, acts⟩ := sent
  cases entry with
  | checkIn | issue => cases staff
  | served | noShow | «recall» =>
    simp only [RoutingEntry.action, routingRegistry, Effect.except_bind_eq_ok] at acts
    obtain ⟨_, _, same⟩ := acts
    cases same
    cases read
    rfl
  | callNext | callSpecific | callBatch =>
    simp only [RoutingEntry.action, routingRegistry, Effect.except_bind_eq_ok] at acts
    obtain ⟨_, _, _, _, same⟩ := acts
    cases same
    cases read
    rfl

/-- An issue carries the handle of its request. -/
theorem issue_handle (sent : (routingRegistry u instants .issue).handler env request = .ok action) :
    ∃ handle freeText lane appointmentAt,
      action = .issueTicket handle freeText lane appointmentAt ∧
        suppliedHandle u request = some handle := by
  simp only [RoutingEntry.handler, Effect.except_bind_eq_ok] at sent
  obtain ⟨_, _, _, _, acts⟩ := sent
  simp only [RoutingEntry.action, routingRegistry, Effect.except_bind_eq_ok] at acts
  obtain ⟨raw, parsed, decoded⟩ := acts
  simp only [decodeIssueBody, handleFields, Effect.except_bind_eq_ok, requiredField_ok, members_ok]
    at decoded
  obtain ⟨members, rfl, handle, ⟨nameKana, name, phoneLast4, phone, same⟩, freeText, _, lane, _,
    appointmentAt, _, built⟩ := decoded
  cases same
  cases built
  refine ⟨_, _, _, _, rfl, ?_⟩
  have body : request.body = .json (.object members) := parseJsonBody_ok.mp parsed
  rw [suppliedHandle, body]
  simp [name, phone]

/-- A cancellation is one of the staff, or carries the handle of its request. -/
theorem cancelRoute_ok (sent : cancelRoute u env request = .ok action) :
    ∃ id reason, decodeTicketId request.id = some id ∧
      (requireStaff env request = .ok () ∧ action = .cancelTicket id .staff reason none ∨
        ∃ handle, suppliedHandle u request = some handle ∧
          action = .cancelTicket id .customer reason (some handle)) := by
  simp only [cancelRoute, Effect.except_bind_eq_ok] at sent
  obtain ⟨_, _, raw, parsed, id, path, sent⟩ := sent
  split at sent
  · simp only [Effect.except_bind_eq_ok] at sent
    obtain ⟨_, accepted, reason, _, same⟩ := sent
    cases same
    exact ⟨id, reason, pathTicketId_ok.mp path, .inl ⟨accepted, rfl⟩⟩
  · simp only [Effect.except_bind_eq_ok, decodeCancelBody, handleFields, members_ok,
      requiredField_ok] at sent
    obtain ⟨body, ⟨members, rfl, handle, ⟨nameKana, name, phoneLast4, phone, same⟩, reason, _,
      built⟩, same'⟩ := sent
    cases same
    cases built
    cases same'
    refine ⟨id, reason, pathTicketId_ok.mp path, .inr ⟨_, ?_, rfl⟩⟩
    rw [suppliedHandle, parseJsonBody_ok.mp parsed]
    simp [name, phone]

theorem accounts_staff {route : Route} (named : e.body.actor = some .staff)
    (vouched : VouchedFor env route request) :
    (Arrival.routed env ports route request).Accounts u s e := by
  simp only [Arrival.Accounts, named]
  exact vouched

theorem accounts_customer {route : Route} (named : e.body.actor = some .customer)
    (path : decodeTicketId request.id = some e.ticketId)
    (own : route = .registered .checkIn ∨ SuppliesHandle u request s e.ticketId) :
    (Arrival.routed env ports route request).Accounts u s e := by
  simp only [Arrival.Accounts, named]
  exact ⟨path, own⟩

/-- An event which an issue records carries the handle that it was issued under. -/
theorem Records.issues {input : IssueTicketInput}
    (records : Records u s ports (.issueTicket input) e) : e.body.actor = none ∧
      ∃ fields, e.body.fields = some fields ∧ fields.toCustomerHandle = input.handle := by
  cases records with
  | issued _ all => exact ⟨rfl, _, rfl, rfl⟩
  | applied _ _ _ applies => cases applies

theorem registered_accounts (kept : s.Kept) {entry : RegisteredRoute}
    (sent : (routingRegistry u instants entry).handler env request = .ok action)
    (read : action.useCase instants = some c) (records : Records u s ports c e) :
    (Arrival.routed env ports (.registered entry) request).Accounts u s e := by
  cases entry with
  | checkIn =>
    obtain ⟨_, id, path, rfl⟩ := checkIn_handler.mp sent
    cases read
    refine accounts_customer records.actor ?_ (.inl rfl)
    rw [records.target kept rfl]
    exact path
  | issue =>
    obtain ⟨handle, freeText, lane, appointmentAt, rfl, supplied⟩ := issue_handle sent
    obtain ⟨at', _, rfl⟩ := Option.map_eq_some_iff.mp read
    obtain ⟨nobody, fields, carried, own⟩ := records.issues
    simp only [Arrival.Accounts, nobody]
    exact ⟨trivial, fields, carried, own ▸ supplied⟩
  | served | noShow | «recall» | callNext | callSpecific | callBatch =>
    exact accounts_staff (records.actor.trans (registered_actor rfl sent read))
      (.inl (RoutingEntry.handler_staff rfl sent))

theorem reschedule_accounts (kept : s.Kept) (sent : rescheduleRoute u env request = .ok action)
    (read : action.useCase instants = some c) (records : Records u s ports c e)
    (changed : (c.run (Durable.repository u Durable.snapshotInterval) ports s).2 ≠ s) :
    (Arrival.routed env ports .reschedule request).Accounts u s e := by
  obtain ⟨_, id, raw, body, path, parsed, decoded, ⟨staff, rfl⟩ | ⟨_, handle, given, rfl⟩⟩ :=
    rescheduleRoute_ok.mp sent
  · obtain ⟨target, _, rfl⟩ := Option.map_eq_some_iff.mp read
    exact accounts_staff records.actor (.inr ⟨rfl, staff⟩)
  · obtain ⟨target, _, rfl⟩ := Option.map_eq_some_iff.mp read
    have own := records.target kept rfl
    refine accounts_customer records.actor (own ▸ path) (.inr (own ▸ ?_))
    exact supplies_of_authenticated kept (rescheduleBody_handle parsed decoded given) rfl
      (fun loaded found stranger => rescheduleTicket_stranger found rfl stranger) changed

theorem cancel_accounts (kept : s.Kept) (sent : cancelRoute u env request = .ok action)
    (read : action.useCase instants = some c) (records : Records u s ports c e)
    (changed : (c.run (Durable.repository u Durable.snapshotInterval) ports s).2 ≠ s) :
    (Arrival.routed env ports .cancel request).Accounts u s e := by
  obtain ⟨id, reason, path, ⟨accepted, rfl⟩ | ⟨handle, supplied, rfl⟩⟩ := cancelRoute_ok sent
  · cases read
    exact accounts_staff records.actor (.inl accepted)
  · cases read
    have own := records.target kept rfl
    refine accounts_customer records.actor (own ▸ path) (.inr (own ▸ ?_))
    exact supplies_of_authenticated kept supplied rfl
      (fun loaded found stranger => cancelTicket_stranger found stranger _ _) changed

/-! ### One arrival -/

theorem routed_accounts (kept : s.Kept) {route : Route}
    (sent : route.handler u instants env request = .ok (.dispatch action))
    (read : action.useCase instants = some c) (records : Records u s ports c e)
    (changed : (c.run (Durable.repository u Durable.snapshotInterval) ports s).2 ≠ s) :
    (Arrival.routed env ports route request).Accounts u s e := by
  cases route with
  | registered entry =>
    simp only [Route.handler, Effect.except_bind_eq_ok] at sent
    obtain ⟨_, handled, same⟩ := sent
    cases same
    exact registered_accounts kept handled read records
  | reschedule =>
    simp only [Route.handler, Effect.except_bind_eq_ok] at sent
    obtain ⟨_, handled, same⟩ := sent
    cases same
    exact reschedule_accounts kept handled read records changed
  | cancel =>
    simp only [Route.handler, Effect.except_bind_eq_ok] at sent
    obtain ⟨_, handled, same⟩ := sent
    cases same
    exact cancel_accounts kept handled read records changed
  | registerPush | unregisterPush =>
    simp only [Route.handler, Effect.except_bind_eq_ok] at sent
    obtain ⟨_, _, same⟩ := sent
    cases same

theorem handler_dispatches {route : Route} {call : ActorCall}
    (queue : ¬ (route = .registerPush ∨ route = .unregisterPush))
    (sent : route.handler u instants env request = .ok call) : ∃ action, call = .dispatch action := by
  cases route with
  | registered | reschedule | cancel =>
    simp only [Route.handler, Effect.except_bind_eq_ok] at sent
    obtain ⟨action, _, same⟩ := sent
    cases same
    exact ⟨action, rfl⟩
  | registerPush => exact absurd (.inl rfl) queue
  | unregisterPush => exact absurd (.inr rfl) queue

/-- Whatever an arrival puts into the log it accounts for. -/
theorem receive_accounts {shop : Shop} (kept : shop.store.Kept) {arrival : Arrival}
    (mem : e ∈ (shop.receive u instants arrival).store.eventLog) (new : e ∉ shop.store.eventLog) :
    arrival.Accounts u shop.store e := by
  cases arrival with
  | routed env ports route request =>
    by_cases push : route = .registerPush ∨ route = .unregisterPush
    · rw [Shop.receive, respond_push push] at mem
      exact absurd mem new
    · cases sent : route.handler u instants env request with
      | error response =>
        rw [Shop.receive, respond_failed sent] at mem
        exact absurd mem new
      | ok call =>
        obtain ⟨action, rfl⟩ := handler_dispatches push sent
        rw [Shop.receive, respond_dispatch sent] at mem
        obtain ⟨c, read, records⟩ := dispatch_records kept mem new
        refine routed_accounts kept sent read records (fun same => ?_)
        rw [dispatch_store read, same] at mem
        exact new mem
  | swept ports tick id channel =>
    rw [Shop.receive, Shop.dispatch_eq] at mem
    obtain ⟨c, read, records⟩ := dispatch_records kept mem new
    cases useCase_action.symm.trans read
    refine ⟨?_, records.target kept (by cases tick <;> rfl)⟩
    rw [records.actor]
    cases tick <;> rfl

/-- An arrival is a run of commits on the tables. -/
theorem receive_steps {shop : Shop} (kept : shop.store.Kept) (arrival : Arrival) :
    Steps u Durable.snapshotInterval shop.store (shop.receive u instants arrival).store := by
  cases arrival with
  | routed env ports route request =>
    by_cases push : route = .registerPush ∨ route = .unregisterPush
    · rw [Shop.receive, respond_push push]
    · cases sent : route.handler u instants env request with
      | error response => rw [Shop.receive, respond_failed sent]
      | ok call =>
        obtain ⟨action, rfl⟩ := handler_dispatches push sent
        rw [Shop.receive, respond_dispatch sent]
        exact dispatch_steps kept
  | swept ports tick id channel =>
    rw [Shop.receive, Shop.dispatch_eq]
    exact dispatch_steps kept

end

/-- Everything in the log is accounted for: over any run of requests and sweeps, each event was
written by an arrival that bears out what the event says of its actor, and is there ever since. -/
theorem log_accounted (u : Unicode) (instants : InstantText) (arrivals : List Arrival) :
    ∀ e ∈ (arrivals.foldl (Shop.receive u instants) .empty).store.eventLog,
      Trace.Since (Shop.receive u instants)
        (fun shop arrival => e ∉ shop.store.eventLog ∧ arrival.Accounts u shop.store e)
        (fun shop _ => e ∈ shop.store.eventLog) arrivals .empty := by
  have kept : ∀ arrivals : List Arrival,
      (arrivals.foldl (Shop.receive u instants) .empty).store.Kept := by
    intro arrivals
    exact (Trace.always_of_invariant (K := fun shop : Shop => shop.store.Kept)
      (fun arrival _ shop kept => (receive_steps kept arrival).kept kept) (fun _ same => same)
      DurableStore.kept_empty).after
  refine Trace.history (R := fun arrivals (shop : Shop) => ∀ e ∈ shop.store.eventLog,
    Trace.Since (Shop.receive u instants)
      (fun shop arrival => e ∉ shop.store.eventLog ∧ arrival.Accounts u shop.store e)
      (fun shop _ => e ∈ shop.store.eventLog) arrivals .empty) ?_ ?_ arrivals
  · intro e mem
    cases mem
  · intro before arrival accounted e mem
    by_cases old : e ∈ (before.foldl (Shop.receive u instants) .empty).store.eventLog
    · exact (accounted e old).snoc old
    · exact Trace.since_now ⟨old, receive_accounts (kept before) mem old⟩

namespace Sample

def handleMembers : List (String × Json) :=
  [("nameKana", .string handle.nameKana), ("phoneLast4", .string handle.phoneLast4)]

/-- A customer takes a ticket and gives it back. -/
def takenAndGivenBack : List Arrival :=
  [.routed (env none) (ports 1) (.registered .issue)
      (onTicket "accept" "" (.json (.object (handleMembers ++ [("freeText", .null)])))),
    .routed (env none) (ports 2) .cancel (onTicket "accept" "" (.json (.object
      (handleMembers ++ [("reason", .string (jsString "late"))]))))]

end Sample

theorem log_accounted_arrivals :
    ∃ e ∈ (Sample.takenAndGivenBack.foldl (Shop.receive Sample.unicode Sample.soonAndLater)
        .empty).store.eventLog,
      Trace.Since (Shop.receive Sample.unicode Sample.soonAndLater)
        (fun shop arrival => e ∉ shop.store.eventLog ∧ arrival.Accounts Sample.unicode shop.store e)
        (fun shop _ => e ∈ shop.store.eventLog) Sample.takenAndGivenBack .empty := by
  have two : (Sample.takenAndGivenBack.foldl (Shop.receive Sample.unicode Sample.soonAndLater)
      .empty).store.eventLog.length = 2 := by decide +kernel
  obtain ⟨e, mem⟩ := List.exists_mem_of_length_pos (two ▸ Nat.two_pos)
  exact ⟨e, mem, log_accounted Sample.unicode Sample.soonAndLater Sample.takenAndGivenBack e mem⟩

end SlotBooking
