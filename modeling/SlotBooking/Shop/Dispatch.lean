import SlotBooking.Adapters.DurableListing
import SlotBooking.Domain.InstantReading
import SlotBooking.Runs.Named

/-! The actor: one action in, one result out, the tables of the shop in between. Broadcasts,
push subscriptions and the alarm touch none of the four tables and are left out. -/
namespace SlotBooking

/-- `QueueAction`. Instants travel as strings. A name of a time zone stands for the zone the
platform knows by it; under an unknown name no date starts. -/
inductive QueueAction where
  | issueTicket (handle : CustomerHandle) (freeText : Option JsString) (lane : Option Lane)
      (appointmentAt : Option String)
  | callNext (actor : Actor) (lane : Option Lane)
  | callSpecific (ticketId : TicketId) (actor : Actor)
  | callBatch (firstId : TicketId) (restIds : List TicketId) (actor : Actor)
  | moveToOverdue (ticketId : TicketId)
  | nudge (ticketId : TicketId) (channel : Channel)
  | lapseAppointment (ticketId : TicketId)
  | markServed (ticketId : TicketId)
  | markNoShow (ticketId : TicketId) (actor : Actor)
  | recall (ticketId : TicketId) (actor : Actor)
  | cancelTicket (ticketId : TicketId) (actor : Actor) (reason : String)
      (handle : Option CustomerHandle)
  | checkIn (ticketId : TicketId)
  | rescheduleTicket (ticketId : TicketId) (newAppointmentAt : String)
      (granularity : SlotGranularity) (tz : BusinessTimeZone) (capacity : Int) (actor : Actor)
      (handle : Option CustomerHandle)

/-- `InstantSchema` in both directions. -/
structure InstantText where
  decode : String → Option Instant
  encode : Instant → String

/-- The texts which Temporal writes, and reads back. -/
def InstantText.iso : InstantText where
  decode text := Instant.ofText text.toList
  encode t := String.ofList t.text

inductive QueueResult where
  | ticket (ticket : Encoded Ticket) (merged : Bool)
  | tickets (tickets : List (Encoded Ticket))
  | done
  | error (tag code : String)
deriving DecidableEq

inductive Rejection where
  | thrown
deriving DecidableEq

/-- The `_tag` of an error; an exception inside a use case has none. -/
def QueueError.tag : QueueError → String
  | .aggregateNotFound => "AggregateNotFound"
  | .concurrency _ _ => "Concurrency"
  | .storage _ => "Storage"
  | .ticketNotFound => "TicketNotFound"
  | .phoneMismatch => "PhoneMismatch"
  | .queueEmpty => "QueueEmpty"
  | .alreadyCancelled => "AlreadyCancelled"
  | .alreadyCompleted => "AlreadyCompleted"
  | .alreadyNoShow => "AlreadyNoShow"
  | .invalidStateTransition _ _ => "InvalidStateTransition"
  | .laneMismatch _ _ => "LaneMismatch"
  | .slotFull _ _ _ _ => "SlotFull"
  | .slotInPast _ => "SlotInPast"
  | .appointmentRequiredForReservationLane => "AppointmentRequiredForReservationLane"
  | .checkInTooEarly _ _ => "CheckInTooEarly"
  | .defect => "Defect"

def codeOf : QueueError → String
  | .aggregateNotFound => "E_INF_AGG_NOT_FOUND"
  | .concurrency _ _ => "E_INF_CONCURRENCY"
  | .storage _ => "E_INF_STORAGE"
  | .ticketNotFound => "E_DOM_TICKET_NOT_FOUND"
  | .phoneMismatch => "E_DOM_PHONE_MISMATCH"
  | .queueEmpty => "E_DOM_QUEUE_EMPTY"
  | .alreadyCancelled => "E_DOM_ALREADY_CANCELLED"
  | .alreadyCompleted => "E_DOM_ALREADY_COMPLETED"
  | .alreadyNoShow => "E_DOM_ALREADY_NO_SHOW"
  | .invalidStateTransition _ _ => "E_DOM_INVALID_TRANSITION"
  | .laneMismatch _ _ => "E_DOM_LANE_MISMATCH"
  | .slotFull _ _ _ _ => "E_DOM_SLOT_FULL"
  | .slotInPast _ => "E_DOM_SLOT_IN_PAST"
  | .appointmentRequiredForReservationLane => "E_DOM_APPOINTMENT_REQUIRED"
  | .checkInTooEarly _ _ => "E_DOM_CHECK_IN_TOO_EARLY"
  | .defect => "E_DEFECT"

section
variable (u : Unicode) (instants : InstantText)

def decodeOptionalInstant : Option String → Option (Option Instant)
  | none => some none
  | some text => (instants.decode text).map some

/-- The handler table; no value where an instant does not decode. -/
def QueueAction.useCase : QueueAction → Option UseCase
  | .issueTicket handle freeText lane appointmentAt =>
    (decodeOptionalInstant instants appointmentAt).map
      (fun appointmentAt => .issueTicket { handle, freeText, lane, appointmentAt })
  | .callNext actor lane => some (.callNext lane actor)
  | .callSpecific ticketId actor => some (.callSpecific ticketId actor)
  | .callBatch firstId restIds actor => some (.callBatch firstId restIds actor)
  | .moveToOverdue ticketId => some (.moveToOverdue ticketId)
  | .nudge ticketId channel => some (.nudge ticketId channel)
  | .lapseAppointment ticketId => some (.lapseAppointment ticketId)
  | .markServed ticketId => some (.markServed ticketId)
  | .markNoShow ticketId actor => some (.markNoShow ticketId actor)
  | .recall ticketId actor => some (.recall ticketId actor)
  | .cancelTicket ticketId actor reason handle => some (.cancelTicket ticketId actor reason handle)
  | .checkIn ticketId => some (.checkIn ticketId)
  | .rescheduleTicket ticketId newAppointmentAt granularity tz capacity actor handle =>
    (instants.decode newAppointmentAt).map (fun newAppointmentAt =>
      .rescheduleTicket { ticketId, newAppointmentAt, granularity, tz, capacity, actor, handle })

/-- The active ticket which an issue would merge into, looked up before the use case runs. -/
def issueExistedId (s : DurableStore) : QueueAction → Option TicketId
  | .issueTicket handle _ _ _ => (s.tickets.find? (Durable.holdsHandle handle)).map TicketRow.id
  | _ => none

def encodeTicket (t : Ticket) : Option (Encoded Ticket) := encodeTicketRowPayload t

/-- `onSuccess`; no value where a ticket does not encode. -/
def encodeReply (issueExistedId : Option TicketId) : Reply → Option QueueResult
  | .undefined => some .done
  | .tickets out => (out.mapM encodeTicket).map .tickets
  | .ticket t => (encodeTicket t).map (fun ticket => .ticket ticket (issueExistedId = some t.id))

def dispatch (ports : Ports) (action : QueueAction) :
    Effect DurableStore Rejection QueueResult := fun s =>
  match action.useCase instants with
  | none => (.error .thrown, s)
  | some c =>
    match c.run (Durable.repository u Durable.snapshotInterval) ports s with
    | (.error e, s') => (.ok (.error e.tag (codeOf e)), s')
    | (.ok reply, s') =>
      match encodeReply (issueExistedId s action) reply with
      | none => (.error .thrown, s')
      | some result => (.ok result, s')

def runDispatches (calls : List (Ports × QueueAction)) (s : DurableStore) : DurableStore :=
  calls.foldl (fun s call => (dispatch u instants call.1 call.2 s).2) s

/-- The store which one dispatch leaves; a run is a fold of it. -/
abbrev dispatched (s : DurableStore) (call : Ports × QueueAction) : DurableStore :=
  (dispatch u instants call.1 call.2 s).2

end

/-! ### A dispatch is its use case -/

section
variable {u : Unicode} {instants : InstantText} {s : DurableStore} {ports : Ports}
  {action : QueueAction}

theorem dispatch_thrown (unread : action.useCase instants = none) :
    dispatch u instants ports action s = (.error .thrown, s) := by
  simp only [dispatch, unread]

theorem dispatch_error {c : UseCase} {e : QueueError} {s' : DurableStore}
    (read : action.useCase instants = some c)
    (ran : c.run (Durable.repository u Durable.snapshotInterval) ports s = (.error e, s')) :
    dispatch u instants ports action s = (.ok (.error e.tag (codeOf e)), s') := by
  simp only [dispatch, read, ran]

theorem dispatch_ok {c : UseCase} {reply : Reply} {result : QueueResult} {s' : DurableStore}
    (read : action.useCase instants = some c)
    (ran : c.run (Durable.repository u Durable.snapshotInterval) ports s = (.ok reply, s'))
    (encoded : encodeReply (issueExistedId s action) reply = some result) :
    dispatch u instants ports action s = (.ok result, s') := by
  simp only [dispatch, read, ran, encoded]

theorem dispatch_store {c : UseCase} (read : action.useCase instants = some c) :
    (dispatch u instants ports action s).2 =
      (c.run (Durable.repository u Durable.snapshotInterval) ports s).2 := by
  obtain ⟨r, s', ran⟩ : ∃ r s', c.run (Durable.repository u Durable.snapshotInterval) ports s =
      (r, s') := ⟨_, _, rfl⟩
  cases r with
  | error e => rw [dispatch_error read ran, ran]
  | ok reply =>
    cases encoded : encodeReply (issueExistedId s action) reply with
    | none => simp only [dispatch, read, ran, encoded]
    | some result => rw [dispatch_ok read ran encoded, ran]

theorem dispatch_steps (kept : s.Kept) :
    Steps u Durable.snapshotInterval s (dispatch u instants ports action s).2 := by
  cases read : action.useCase instants with
  | none =>
    rw [dispatch_thrown read]
  | some c =>
    rw [dispatch_store read]
    exact (call_outcome kept ports c).steps

theorem runDispatches_steps (kept : s.Kept) (calls : List (Ports × QueueAction)) :
    Steps u Durable.snapshotInterval s (runDispatches u instants calls s) := by
  induction calls generalizing s with
  | nil => exact .refl
  | cons call calls ih =>
    have steps := @dispatch_steps u instants s call.1 call.2 kept
    exact steps.trans (ih (steps.kept kept))

theorem runDispatches_invariant {P : DurableStore → Prop} {calls : List (Ports × QueueAction)}
    (kept : s.Kept) (initial : P s)
    (step : ∀ t, ∀ call ∈ calls, t.Kept → P t → P (dispatch u instants call.1 call.2 t).2) :
    (runDispatches u instants calls s).Kept ∧ P (runDispatches u instants calls s) := by
  induction calls generalizing s with
  | nil => exact ⟨kept, initial⟩
  | cons call calls ih =>
    have keptNext := (@dispatch_steps u instants s call.1 call.2 kept).kept kept
    apply ih keptNext (step s call List.mem_cons_self kept initial)
    exact fun t later mem => step t later (List.mem_cons_of_mem call mem)

/-! ### How an issue ends -/

variable (u ports s) in
/-- Merged into an active ticket, issued, or failed; only an issue changes the tables. -/
inductive IssueEnd (input : IssueTicketInput) :
    Except Rejection QueueResult × DurableStore → Prop where
  | merged (t : Ticket) (found : Durable.findActiveByHandle u s input.handle = .ok (some t)) :
      IssueEnd input (.ok (.ticket ⟨t⟩ true), s)
  | issued (all : List Ticket) (s' : DurableStore)
      (step : Issued u Durable.snapshotInterval ports input s s' all) :
      IssueEnd input (.ok (.ticket ⟨(issueResult ports input s all).ticket⟩ false), s')
  | failed (e : QueueError)
      (unheld : ∀ t, Durable.findActiveByHandle u s input.handle ≠ .ok (some t))
      (refused : ∀ all, Durable.findActiveByHandle u s input.handle = .ok none →
        Durable.listAll u s = .ok all → ¬ s.Admits 0 [(issueResult ports input s all).event]) :
      IssueEnd input (.ok (.error e.tag (codeOf e)), s)

theorem issueExistedId_merged (tidy : s.Tidy) {handle : CustomerHandle} {freeText : Option JsString}
    {lane : Option Lane} {appointmentAt : Option String} {t : Ticket}
    (found : Durable.findActiveByHandle u s handle = .ok (some t)) :
    issueExistedId s (.issueTicket handle freeText lane appointmentAt) = some t.id := by
  obtain ⟨row, first, decoded⟩ := findActiveByHandle_some.mp found
  have inTable : row ∈ s.tickets := List.mem_of_find?_eq_some first
  rw [issueExistedId, first, Option.map_some, (decodeTicketRowPayload_core decoded).1,
    (tidy.rows row inTable).1]

theorem issueExistedId_free {handle : CustomerHandle} {freeText : Option JsString}
    {lane : Option Lane} {appointmentAt : Option String}
    (free : Durable.findActiveByHandle u s handle = .ok none) :
    issueExistedId s (.issueTicket handle freeText lane appointmentAt) = none := by
  rw [issueExistedId, findActiveByHandle_none.mp free]
  rfl

theorem useCase_issueTicket {c : UseCase} {input : IssueTicketInput}
    (read : action.useCase instants = some c) (issues : c = .issueTicket input) :
    ∃ lane appointmentAt, action = .issueTicket input.handle input.freeText lane appointmentAt := by
  subst issues
  cases action with
  | issueTicket handle freeText lane appointmentAt =>
    obtain ⟨appointmentAt', _, same⟩ := Option.map_eq_some_iff.mp read
    cases same
    exact ⟨lane, appointmentAt, rfl⟩
  | rescheduleTicket =>
    obtain ⟨newAppointmentAt, _, same⟩ := Option.map_eq_some_iff.mp read
    cases same
  | _ => cases read

theorem dispatch_issue (kept : s.Kept) {input : IssueTicketInput}
    (read : action.useCase instants = some (.issueTicket input)) :
    IssueEnd u s ports input (dispatch u instants ports action s) := by
  obtain ⟨lane, appointmentAt, rfl⟩ := useCase_issueTicket read rfl
  have ran := @run_issueTicket ports _ (Durable.repository u Durable.snapshotInterval) input s
  cases found : (Durable.repository u Durable.snapshotInterval).findActiveByHandle s input.handle with
  | error e =>
    simp only [found] at ran
    rw [dispatch_error read ran]
    exact .failed e (fun t same => nomatch found.symm.trans same)
      (fun all same => nomatch found.symm.trans same)
  | ok existing =>
    cases existing with
    | some t =>
      simp only [found] at ran
      obtain ⟨row, _, decoded⟩ := findActiveByHandle_some.mp found
      have encodes : encodeTicket t = some ⟨t⟩ :=
        encodeTicketRowPayload_valid (decodeTicketRowPayload_valid decoded).2
      have encoded : encodeReply (issueExistedId s
          (.issueTicket input.handle input.freeText lane appointmentAt)) (.ticket t) =
            some (.ticket ⟨t⟩ true) := by
        simp [issueExistedId_merged kept.tidy found, encodeReply, encodes]
      rw [dispatch_ok read ran encoded]
      exact .merged t found
    | none =>
      cases listed : (Durable.repository u Durable.snapshotInterval).listAll s with
      | error e =>
        simp only [found, listed] at ran
        rw [dispatch_error read ran]
        exact .failed e (fun t same => nomatch found.symm.trans same)
          (fun all _ same => nomatch listed.symm.trans same)
      | ok all =>
        simp only [found, listed] at ran
        have outcome := @issue_outcome u Durable.snapshotInterval s kept ports input all found listed
        rcases outcome with ⟨s', done, step⟩ | ⟨⟨e, failed⟩, refused⟩
        · have encodes : encodeTicket (issueResult ports input s all).ticket =
              some ⟨(issueResult ports input s all).ticket⟩ :=
            encodeTicketRowPayload_valid step.accepts.valid
          have encoded : encodeReply (issueExistedId s
              (.issueTicket input.handle input.freeText lane appointmentAt))
                (.ticket (issueResult ports input s all).ticket) =
                  some (.ticket ⟨(issueResult ports input s all).ticket⟩ false) := by
            simp [issueExistedId_free found, encodeReply, encodes]
          rw [dispatch_ok read (ran.trans (Effect.bind_ok done)) encoded]
          exact .issued all s' step
        · rw [dispatch_error read (ran.trans (Effect.bind_error failed))]
          apply IssueEnd.failed e (fun t same => nomatch found.symm.trans same)
          intro other _ same
          cases Except.ok.inj (listed.symm.trans same)
          exact refused

theorem dispatch_starts (kept : s.Kept) {input : IssueTicketInput}
    (read : action.useCase instants = some (.issueTicket input)) (starts : Starts u ports input s) :
    ∃ all, Issued u Durable.snapshotInterval ports input s (dispatch u instants ports action s).2
      all := by
  have ends := @dispatch_issue u instants s ports action kept input read
  generalize dispatch u instants ports action s = r at ends ⊢
  cases ends with
  | merged t found => cases starts.free.symm.trans found
  | issued all s' step => exact ⟨all, step⟩
  | failed e unheld refused =>
    obtain ⟨all, listed⟩ := starts.listed
    exact absurd (starts.admits kept all) (refused all starts.free listed)

theorem dispatch_unstarted (kept : s.Kept) {input : IssueTicketInput}
    (read : action.useCase instants = some (.issueTicket input)) (idle : ¬ Starts u ports input s) :
    (dispatch u instants ports action s).2 = s := by
  have ends := @dispatch_issue u instants s ports action kept input read
  generalize dispatch u instants ports action s = r at ends ⊢
  cases ends with
  | merged | failed => rfl
  | issued all s' step => exact absurd (step.starts kept) idle

/-- A dispatch does not read, or issues, or leads through transitions. -/
theorem dispatch_cases (kept : s.Kept) (ports : Ports) (action : QueueAction) :
    (action.useCase instants = none ∧ dispatch u instants ports action s = (.error .thrown, s)) ∨
    (∃ input, action.useCase instants = some (.issueTicket input) ∧
      IssueEnd u s ports input (dispatch u instants ports action s)) ∨
    ∃ c, action.useCase instants = some c ∧ (∀ input, c ≠ .issueTicket input) ∧
      Moves u Durable.snapshotInterval s (dispatch u instants ports action s).2 := by
  cases read : action.useCase instants with
  | none => exact .inl ⟨rfl, dispatch_thrown read⟩
  | some c =>
    by_cases issues : ∃ input, c = .issueTicket input
    · obtain ⟨input, rfl⟩ := issues
      exact .inr (.inl ⟨input, rfl, dispatch_issue kept read⟩)
    · have other : ∀ input, c ≠ .issueTicket input := fun input same => issues ⟨input, same⟩
      refine .inr (.inr ⟨c, rfl, other, ?_⟩)
      rw [dispatch_store read]
      exact (@call_outcome u Durable.snapshotInterval s kept ports c).moves other

/-- A property survives a dispatch which survives a transition, and the issue if it is one. -/
theorem dispatch_invariant {P : DurableStore → Prop} (kept : s.Kept) (initial : P s)
    (moved : ∀ t t' loaded result, t.Kept → P t →
      Moved u Durable.snapshotInterval t t' loaded result → P t')
    (issued : ∀ input all s', action.useCase instants = some (.issueTicket input) →
      Issued u Durable.snapshotInterval ports input s s' all → P s') :
    P (dispatch u instants ports action s).2 := by
  rcases @dispatch_cases u instants s kept ports action with
    ⟨_, thrown⟩ | ⟨input, read, ends⟩ | ⟨_, _, _, moves⟩
  · rw [thrown]
    exact initial
  · generalize dispatch u instants ports action s = r at ends ⊢
    cases ends with
    | merged | failed => exact initial
    | issued all s' step => exact issued input all s' read step
  · exact (moves.invariant kept initial moved).2

end

/-- No string on the wire is an instant. -/
def Sample.noInstants : InstantText := ⟨fun _ => none, fun _ => ""⟩

end SlotBooking
