import SlotBooking.Http.Router
import SlotBooking.Shop.Handles
import SlotBooking.Shop.SlotGrid

/-! The routes on which customers find their ticket again, under its id or under the handle alone.
They read payloads as they are stored, without the decoder. -/
namespace SlotBooking

/-! ### The actor -/

/-- `SELECT payload FROM tickets WHERE id = ? LIMIT 1`. -/
def DurableStore.getTicketById (s : DurableStore) (id : TicketId) : Option Ticket :=
  (s.row id).map (fun r => r.payload.json)

/-- The first row which holds the handle, while its ticket is active. -/
def DurableStore.getByHandle (s : DurableStore) (handle : CustomerHandle) : Option Ticket :=
  (s.tickets.find? (Durable.holdsHandle handle)).map (fun r => r.payload.json)

/-! ### The routes -/

section
variable (u : Unicode) (query : String → Option JsString)

/-- A parameter which is missing is a field which is missing. -/
def queryFields (names : List String) : List (String × Json) :=
  names.filterMap (fun name => (query name).map (fun s => (name, Json.string s)))

def decodeMyTicketQuery : Except FailResponse (TicketId × CustomerHandle) := do
  let members := queryFields query ["ticketId", "nameKana", "phoneLast4"]
  let ticketId ← requiredField members "ticketId" (fun value => value.string?.bind decodeTicketId)
  let handle ← handleFields u members
  return (ticketId, handle)

def decodeByHandleQuery : Except FailResponse CustomerHandle :=
  handleFields u (queryFields query ["nameKana", "phoneLast4"])

variable (env : Env) (request : HttpRequest) (s : DurableStore)

def FailResponse.phoneMismatch : FailResponse :=
  { status := 403, tag := "PhoneMismatch", code := "E_DOM_PHONE_MISMATCH" }

/-- `GET /api/v1/tickets/me`: the ticket, or a refusal. -/
def myTicketRoute : Except FailResponse Ticket := do
  rateLimitMiddleware env .verify
  let (ticketId, handle) ← decodeMyTicketQuery u request.query
  match s.getTicketById ticketId with
  | none => .error .ticketNotFound
  | some ticket =>
    let kanaOK := constantTimeStringEqual ticket.nameKana handle.nameKana
    let phoneOK := constantTimeStringEqual ticket.phoneLast4 handle.phoneLast4
    if !kanaOK || !phoneOK then .error .phoneMismatch else return ticket

/-- `GET /api/v1/tickets/by-handle`. -/
def byHandleRoute : Except FailResponse Ticket := do
  rateLimitMiddleware env .verify
  let handle ← decodeByHandleQuery u request.query
  match s.getByHandle handle with
  | none => .error .ticketNotFound
  | some ticket => return ticket

end

/-! ### What a request learns -/

section
variable {u : Unicode} {env : Env} {request : HttpRequest} {s s' : DurableStore} {id : TicketId}
  {handle : CustomerHandle} {t : Ticket}

/-- Once it is let through and read, a request for a ticket is answered by its row. -/
theorem myTicketRoute_read (open_ : env.limit .verify ≠ some false)
    (read : decodeMyTicketQuery u request.query = .ok (id, handle)) :
    myTicketRoute u env request s =
      match s.getTicketById id with
      | none => .error .ticketNotFound
      | some t => if t.handle = handle then .ok t else .error .phoneMismatch := by
  have passed := rateLimitMiddleware_ok.mpr open_
  simp only [myTicketRoute, passed, read, bind, Except.bind, pure, Except.pure]
  cases s.getTicketById id with
  | none => rfl
  | some t =>
    have compared : (!constantTimeStringEqual t.nameKana handle.nameKana ||
        !constantTimeStringEqual t.phoneLast4 handle.phoneLast4) = true ↔ ¬ t.handle = handle := by
      rw [← equalsCustomerHandle_iff, equalsCustomerHandle, Bool.or_eq_true, Bool.not_eq_true',
        Bool.not_eq_true', Bool.and_eq_true, not_and_or, Bool.not_eq_true, Bool.not_eq_true]
      rfl
    simp only [compared, ite_not]

theorem byHandleRoute_read (open_ : env.limit .verify ≠ some false)
    (read : decodeByHandleQuery u request.query = .ok handle) :
    byHandleRoute u env request s =
      match s.getByHandle handle with
      | none => .error .ticketNotFound
      | some t => .ok t := by
  have passed := rateLimitMiddleware_ok.mpr open_
  simp only [byHandleRoute, passed, read, bind, Except.bind, pure, Except.pure]

/-- Both routes read one handle. -/
theorem decodeMyTicketQuery_handle {query : String → Option JsString}
    (read : decodeMyTicketQuery u query = .ok (id, handle)) :
    decodeByHandleQuery u query = .ok handle := by
  have fields : ∀ name, name = "nameKana" ∨ name = "phoneLast4" →
      (queryFields query ["ticketId", "nameKana", "phoneLast4"]).lookup name =
        (queryFields query ["nameKana", "phoneLast4"]).lookup name := by
    intro name other
    rw [queryFields, List.filterMap_cons]
    cases query "ticketId" with
    | none => rfl
    | some text => rcases other with rfl | rfl <;> rfl
  simp only [decodeMyTicketQuery, Effect.except_bind_eq_ok] at read
  obtain ⟨_, _, handle', given, same⟩ := read
  cases same
  rw [← given]
  simp only [decodeByHandleQuery, handleFields, requiredField, fields _ (.inl rfl),
    fields _ (.inr rfl)]

theorem myTicketRoute_ok : myTicketRoute u env request s = .ok t ↔ env.limit .verify ≠ some false ∧
    ∃ id handle, decodeMyTicketQuery u request.query = .ok (id, handle) ∧
      s.getTicketById id = some t ∧ t.handle = handle := by
  constructor
  · intro answered
    have steps := answered
    simp only [myTicketRoute, Effect.except_bind_eq_ok] at steps
    obtain ⟨_, passed, ⟨id, handle⟩, read, _⟩ := steps
    have open_ := rateLimitMiddleware_ok.mp passed
    refine ⟨open_, id, handle, read, ?_⟩
    rw [myTicketRoute_read open_ read] at answered
    cases found : s.getTicketById id with
    | none =>
      rw [found] at answered
      cases answered
    | some t' =>
      simp only [found] at answered
      split at answered
      · rename_i same
        cases answered
        exact ⟨rfl, same⟩
      · cases answered
  · rintro ⟨open_, id, handle, read, found, same⟩
    rw [myTicketRoute_read open_ read, found]
    exact if_pos same

theorem byHandleRoute_ok : byHandleRoute u env request s = .ok t ↔ env.limit .verify ≠ some false ∧
    ∃ handle, decodeByHandleQuery u request.query = .ok handle ∧ s.getByHandle handle = some t := by
  constructor
  · intro answered
    have steps := answered
    simp only [byHandleRoute, Effect.except_bind_eq_ok] at steps
    obtain ⟨_, passed, handle, read, _⟩ := steps
    have open_ := rateLimitMiddleware_ok.mp passed
    refine ⟨open_, handle, read, ?_⟩
    rw [byHandleRoute_read open_ read] at answered
    cases found : s.getByHandle handle with
    | none =>
      rw [found] at answered
      cases answered
    | some t' =>
      rw [found] at answered
      exact congrArg some (Except.ok.inj answered)
  · rintro ⟨open_, handle, read, found⟩
    rw [byHandleRoute_read open_ read, found]

/-! ### What the tables have to do with it -/

/-- The row is of a ticket with this handle, or is found under it. -/
def TicketRow.concerns (handle : CustomerHandle) (r : TicketRow) : Bool :=
  Durable.holdsHandle handle r || r.payload.json.handle = handle

/-- The same tickets exist, and those of one customer are the same. -/
structure DurableStore.AlikeTo (handle : CustomerHandle) (s s' : DurableStore) : Prop where
  ids : ∀ id, s.row id = none ↔ s'.row id = none
  rows : s.tickets.filter (TicketRow.concerns handle) =
    s'.tickets.filter (TicketRow.concerns handle)

theorem getByHandle_alike (alike : s.AlikeTo handle s') :
    s.getByHandle handle = s'.getByHandle handle := by
  have through : ∀ rows : List TicketRow, rows.find? (Durable.holdsHandle handle) =
      (rows.filter (TicketRow.concerns handle)).find? (Durable.holdsHandle handle) := by
    intro rows
    rw [List.find?_filter]
    congr 1
    funext r
    cases held : Durable.holdsHandle handle r <;> simp [TicketRow.concerns, held]
  rw [DurableStore.getByHandle, DurableStore.getByHandle, through, through s'.tickets, alike.rows]

/-- A ticket of the customer is found in the one store as in the other. -/
theorem getTicketById_alike (alike : DurableStore.AlikeTo handle s s')
    (keyed : (s'.tickets.map TicketRow.id).Nodup) (found : s.getTicketById id = some t)
    (same : t.handle = handle) : s'.getTicketById id = some t := by
  obtain ⟨r, row, rfl⟩ := Option.map_eq_some_iff.mp found
  obtain ⟨inTable, key⟩ := Table.find_some row
  have concerned : r ∈ s'.tickets.filter (TicketRow.concerns handle) := by
    rw [← alike.rows]
    exact List.mem_filter.mpr ⟨inTable, by simp [TicketRow.concerns, same]⟩
  have there := Table.find_of_mem keyed (List.mem_filter.mp concerned).1
  rw [key] at there
  exact Option.map_eq_some_iff.mpr ⟨r, there, rfl⟩

theorem DurableStore.AlikeTo.symm (alike : DurableStore.AlikeTo handle s s') :
    DurableStore.AlikeTo handle s' s :=
  ⟨fun id => (alike.ids id).symm, alike.rows.symm⟩

theorem myTicketRoute_alike (keyed : (s.tickets.map TicketRow.id).Nodup)
    (keyed' : (s'.tickets.map TicketRow.id).Nodup) (alike : DurableStore.AlikeTo handle s s')
    (read : decodeMyTicketQuery u request.query = .ok (id, handle))
    (open_ : env.limit .verify ≠ some false) :
    myTicketRoute u env request s = myTicketRoute u env request s' := by
  rw [myTicketRoute_read open_ read, myTicketRoute_read open_ read]
  cases found : s.getTicketById id with
  | none =>
    have absent : s'.getTicketById id = none :=
      Option.map_eq_none_iff.mpr ((alike.ids id).mp (Option.map_eq_none_iff.mp found))
    rw [absent]
  | some t =>
    by_cases same : t.handle = handle
    · rw [getTicketById_alike alike keyed' found same]
    · cases found' : s'.getTicketById id with
      | none =>
        have absent := (alike.ids id).mpr (Option.map_eq_none_iff.mp found')
        cases found.symm.trans (Option.map_eq_none_iff.mpr absent)
      | some t' =>
        -- neither ticket is the customer's: both stores refuse, whatever they hold
        have other : ¬ t'.handle = handle := fun same' =>
          same (Option.some.inj
            (found.symm.trans (getTicketById_alike alike.symm keyed found' same')) ▸ same')
        simp only [if_neg same, if_neg other]

end

/-- By the routes of recovery a customer learns nothing of the others but which tickets exist: two
stores that differ in tickets of other handles answer every request alike. -/
theorem recovery_private (u : Unicode) (env : Env) (request : HttpRequest) (s s' : DurableStore)
    (keyed : (s.tickets.map TicketRow.id).Nodup) (keyed' : (s'.tickets.map TicketRow.id).Nodup)
    (alike : ∀ handle, decodeByHandleQuery u request.query = .ok handle → s.AlikeTo handle s') :
    myTicketRoute u env request s = myTicketRoute u env request s' ∧
      byHandleRoute u env request s = byHandleRoute u env request s' := by
  by_cases open_ : env.limit .verify ≠ some false
  · constructor
    · cases read : decodeMyTicketQuery u request.query with
      | error refusal => simp only [myTicketRoute, rateLimitMiddleware_ok.mpr open_, read, bind,
          Except.bind]
      | ok asked =>
        obtain ⟨id, handle⟩ := asked
        exact myTicketRoute_alike keyed keyed' (alike handle (decodeMyTicketQuery_handle read)) read
          open_
    · cases read : decodeByHandleQuery u request.query with
      | error refusal => simp only [byHandleRoute, rateLimitMiddleware_ok.mpr open_, read, bind,
          Except.bind]
      | ok handle =>
        rw [byHandleRoute_read open_ read, byHandleRoute_read open_ read,
          getByHandle_alike (alike handle read)]
  · have refused : rateLimitMiddleware env .verify = .error .rateLimited :=
      if_pos (not_not.mp open_)
    simp only [myTicketRoute, byHandleRoute, refused, bind, Except.bind, and_self]

namespace Sample

/-- A customer of the shop, with her name and number. -/
def recovering : HttpRequest where
  id := []
  header := fun _ => none
  query := fun name =>
    if name = "nameKana" then some handle.nameKana
    else if name = "phoneLast4" then some handle.phoneLast4
    else if name = "ticketId" then some (jsString "tkt_00000000000000000000000002")
    else none
  body := .empty

def twoTickets : List (Ports × QueueAction) :=
  [(ports 1, .issueTicket handle none none none), (ports 2, .issueTicket otherHandle none none none)]

def otherCalled : List (Ports × QueueAction) := twoTickets ++ [(ports 3, .callSpecific ⟨2⟩ .staff)]

end Sample

theorem recovery_private_sample :
    let s := runDispatches Sample.unicode Sample.noInstants Sample.twoTickets .empty
    let s' := runDispatches Sample.unicode Sample.noInstants Sample.otherCalled .empty
    myTicketRoute Sample.unicode (Sample.env none) Sample.recovering s =
        myTicketRoute Sample.unicode (Sample.env none) Sample.recovering s' ∧
      byHandleRoute Sample.unicode (Sample.env none) Sample.recovering s =
        byHandleRoute Sample.unicode (Sample.env none) Sample.recovering s' := by
  refine recovery_private _ _ _ _ _ (by decide +kernel) (by decide +kernel) ?_
  intro handle read
  have own : decodeByHandleQuery Sample.unicode Sample.recovering.query = .ok Sample.handle := by
    decide +kernel
  cases own.symm.trans read
  refine ⟨fun id => ?_, by decide +kernel⟩
  rw [DurableStore.row, DurableStore.row, Table.find_none_iff, Table.find_none_iff]
  have ids : (runDispatches Sample.unicode Sample.noInstants Sample.twoTickets .empty).tickets.map
      TicketRow.id = (runDispatches Sample.unicode Sample.noInstants Sample.otherCalled
        .empty).tickets.map TicketRow.id := by
    decide +kernel
  rw [ids]

/-! ### The routes and the issue -/

section
variable {u : Unicode} {s : DurableStore} {handle : CustomerHandle} {t : Ticket}

/-- What the recovery finds under a handle is what an issue would be merged into. -/
theorem getByHandle_iff (named : s.Named u) (kept : s.Kept) :
    s.getByHandle handle = some t ↔ Durable.findActiveByHandle u s handle = .ok (some t) := by
  rw [findActiveByHandle_some]
  constructor
  · intro found
    obtain ⟨r, first, rfl⟩ := Option.map_eq_some_iff.mp found
    exact ⟨r, first, named.decoded kept.tidy.ticketsKeyed (List.mem_of_find?_eq_some first)⟩
  · rintro ⟨r, first, decoded⟩
    have stored := named.decoded kept.tidy.ticketsKeyed (List.mem_of_find?_eq_some first)
    exact Option.map_eq_some_iff.mpr ⟨r, first, Option.some.inj (stored.symm.trans decoded)⟩

theorem getTicketById_iff (kept : s.Kept) {id : TicketId} : s.getTicketById id = some t ↔
    t ∈ s.tickets.map (fun r => r.payload.json) ∧ t.id = id := by
  constructor
  · intro found
    obtain ⟨r, row, rfl⟩ := Option.map_eq_some_iff.mp found
    obtain ⟨inTable, key⟩ := Table.find_some row
    exact ⟨List.mem_map_of_mem inTable, (kept.tidy.rows r inTable).1.trans key⟩
  · rintro ⟨mem, rfl⟩
    obtain ⟨r, inTable, rfl⟩ := List.mem_map.mp mem
    have row := Table.find_of_mem kept.tidy.ticketsKeyed inTable
    rw [← (kept.tidy.rows r inTable).1] at row
    exact Option.map_eq_some_iff.mpr ⟨r, row, rfl⟩

end

/-- The routes of recovery and the issue go by one idea of whose ticket is whose. After dispatches
whose issues carry normalised texts, `me` shows a ticket exactly to who names its id and its
handle; `by-handle` shows the active one of them; and an issue is merged exactly into that. -/
theorem recovery_agrees (u : Unicode) (instants : InstantText)
    (calls : List (Ports × QueueAction)) (canonical : ∀ call ∈ calls, CanonicalIssue u call.2)
    (env : Env) (open_ : env.limit .verify ≠ some false) :
    let s := runDispatches u instants calls .empty
    ∃ all, Durable.listAll u s = .ok all ∧ ∀ (request : HttpRequest) (t : Ticket),
      (∀ id handle, decodeMyTicketQuery u request.query = .ok (id, handle) →
        (myTicketRoute u env request s = .ok t ↔ t ∈ all ∧ t.id = id ∧ t.handle = handle)) ∧
      ∀ handle, decodeByHandleQuery u request.query = .ok handle →
        (byHandleRoute u env request s = .ok t ↔
          t ∈ all ∧ t.handle = handle ∧ t.state.isActive = true) ∧
        ∀ (ports : Ports) (freeText : Option JsString) (lane : Option Lane)
          (appointmentAt : Option String) (c : UseCase),
          (QueueAction.issueTicket handle freeText lane appointmentAt).useCase instants = some c →
          (dispatch u instants ports (.issueTicket handle freeText lane appointmentAt) s =
              (.ok (.ticket ⟨t⟩ true), s) ↔
            byHandleRoute u env request s = .ok t) := by
  intro s
  obtain ⟨kept, named⟩ := @runDispatches_named u instants calls canonical
  have numbered := (numbered_steps (@runDispatches_steps u instants .empty DurableStore.kept_empty
    calls) DurableStore.kept_empty rfl).2
  refine ⟨_, named.listAll kept numbered, fun request t => ⟨?_, ?_⟩⟩
  · intro id handle read
    rw [myTicketRoute_ok]
    constructor
    · rintro ⟨_, id', handle', read', found, same⟩
      cases read.symm.trans read'
      obtain ⟨listed, key⟩ := (getTicketById_iff kept).mp found
      exact ⟨listed, key, same⟩
    · rintro ⟨listed, key, same⟩
      exact ⟨open_, id, handle, read, (getTicketById_iff kept).mpr ⟨listed, key⟩, same⟩
  · intro handle read
    have shown : byHandleRoute u env request s = .ok t ↔
        Durable.findActiveByHandle u s handle = .ok (some t) := by
      rw [byHandleRoute_ok, ← getByHandle_iff named kept]
      constructor
      · rintro ⟨_, handle', read', found⟩
        cases read.symm.trans read'
        exact found
      · exact fun found => ⟨open_, handle, read, found⟩
    refine ⟨?_, ?_⟩
    · rw [shown, findActiveByHandle_iff named kept]
      exact and_congr_right (fun _ => and_comm)
    · intro ports freeText lane appointmentAt c built
      obtain ⟨at', _, rfl⟩ := Option.map_eq_some_iff.mp built
      have ends : IssueEnd u s ports ⟨handle, freeText, lane, at'⟩ _ := dispatch_issue kept built
      rw [shown]
      refine ⟨fun merged => ?_, ends.merges⟩
      rw [merged] at ends
      cases ends with
      | merged _ found => exact found

theorem recovery_agrees_sample :
    ∃ all, Durable.listAll Sample.unicode (runDispatches Sample.unicode Sample.noInstants
        Sample.otherCalled .empty) = .ok all ∧ ∀ t,
      byHandleRoute Sample.unicode (Sample.env none) Sample.recovering (runDispatches
          Sample.unicode Sample.noInstants Sample.otherCalled .empty) = .ok t ↔
        t ∈ all ∧ t.handle = Sample.handle ∧ t.state.isActive = true := by
  have canonical : ∀ call ∈ Sample.otherCalled, CanonicalIssue Sample.unicode call.2 := by
    intro call mem
    simp only [Sample.otherCalled, Sample.twoTickets, List.cons_append, List.nil_append,
      List.mem_cons, List.not_mem_nil, or_false] at mem
    rcases mem with rfl | rfl | rfl
    · exact (by decide : Canonical Sample.unicode ⟨Sample.handle, none⟩)
    · exact (by decide : Canonical Sample.unicode ⟨Sample.otherHandle, none⟩)
    · trivial
  obtain ⟨all, listed, shown⟩ := recovery_agrees Sample.unicode Sample.noInstants
    Sample.otherCalled canonical (Sample.env none) (by simp [Sample.env])
  exact ⟨all, listed, fun t => ((shown Sample.recovering t).2 Sample.handle (by decide +kernel)).1⟩

end SlotBooking
