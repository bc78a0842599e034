import SlotBooking.Application.Repository

/-! The thirteen use cases of the queue, over any repository. Audit logging is left
out: a logger changes no store and returns nothing. -/
namespace SlotBooking

section
variable {σ : Type} (repo : TicketRepository σ) (ports : Ports)

/-! ### Shared tails -/

/-- A storage miss surfaces as `TicketNotFound`. -/
def retagNotFound (missing : QueueError) : QueueError → QueueError
  | .aggregateNotFound => missing
  | e => e

/-- `repo.load(id)` with `AggregateNotFound` caught. -/
def loadOr (missing : QueueError) (id : TicketId) : Effect σ QueueError LoadedAggregate :=
  .inspect (fun s => (repo.load s id).mapError (retagNotFound missing))

def loadOrTicketNotFound (id : TicketId) : Effect σ QueueError LoadedAggregate :=
  loadOr repo .ticketNotFound id

def authenticateCustomer (id : TicketId) (handle : CustomerHandle) :
    Effect σ QueueError LoadedAggregate := do
  let loaded ← loadOr repo .ticketNotFound id
  if !equalsCustomerHandle loaded.state.handle handle then .fail .phoneMismatch
  else .succeed loaded

/-- With a handle the customer is authenticated; without one the caller is staff. -/
def loadAs (id : TicketId) : Option CustomerHandle → Effect σ QueueError LoadedAggregate
  | some handle => authenticateCustomer repo id handle
  | none => loadOrTicketNotFound repo id

/-- Apply a transition and save it under the revision that was loaded. A transition
that throws is a defect. -/
def applyAndPersist (loaded : LoadedAggregate) (applied : Option ApplyResult) :
    Effect σ QueueError Ticket :=
  match applied with
  | none => .fail .defect
  | some result => do
    repo.save loaded.state.id loaded.revision [result.event] result.ticket
    .succeed result.ticket

def issueAndPersist (apply : Nat → ApplyResult) : Effect σ QueueError Ticket := do
  let seq ← repo.nextSeq
  let result := apply seq
  repo.issue ports.newTicketId [result.event] result.ticket
  .succeed result.ticket

/-! ### Issue -/

structure IssueTicketInput where
  handle : CustomerHandle
  freeText : Option JsString
  lane : Option Lane
  appointmentAt : Option Instant
deriving DecidableEq

/-- The transition an issue applies once its numbers are known. -/
def IssueTicketInput.args (input : IssueTicketInput) (displaySeq seq : Nat) : IssueArgs :=
  { nameKana := input.handle.nameKana, phoneLast4 := input.handle.phoneLast4,
    freeText := input.freeText, id := ports.newTicketId, seq, lane := input.lane.getD .walkIn,
    displaySeq, appointmentAt := input.appointmentAt, time := ports.nowInstant 0,
    eventId := ports.newTicketEventId 0 }

def issueTicket (input : IssueTicketInput) : Effect σ QueueError Ticket := do
  let existing ← Effect.inspect (fun s => repo.findActiveByHandle s input.handle)
  match existing with
  | some t => .succeed t
  | none => do
    let all ← Effect.inspect repo.listAll
    let displaySeq := nextDisplaySeq (.ofTickets all)
    issueAndPersist repo ports (fun seq => applyIssue (input.args ports displaySeq seq))

/-! ### Calls -/

def defaultGraceMinutes : Int := 5

/-- The pick of `CallNext`; no value where the selection throws. -/
def pickNext (tickets : List Ticket) (now : Instant) : Option Lane → Option (Option Ticket)
  | some lane => some (head (.ofTickets tickets) (some lane))
  | none => nextCallable (.ofTickets tickets) now defaultGraceMinutes

def callNext (lane : Option Lane) (actor : Actor) : Effect σ QueueError Ticket := do
  let all ← Effect.inspect repo.listAll
  match pickNext all (ports.nowInstant 0) lane with
  | none => .fail .defect
  | some none => .fail .queueEmpty
  | some (some next) => do
    let loaded ← loadOr repo .queueEmpty next.id
    match loaded.state with
    | ⟨waiting, .waiting⟩ =>
      applyAndPersist repo loaded (some (applyCall waiting
        { time := ports.nowInstant 1, eventId := ports.newTicketEventId 0,
          calledBy := some actor }))
    | _ => .fail .queueEmpty

def callSpecific (ticketId : TicketId) (actor : Actor) : Effect σ QueueError Ticket := do
  let loaded ← loadOrTicketNotFound repo ticketId
  match guardActive loaded.state with
  | some terminal => .fail terminal
  | none =>
    match loaded.state with
    | ⟨waiting, .waiting⟩ =>
      applyAndPersist repo loaded (some (applyCall waiting
        { time := ports.nowInstant 0, eventId := ports.newTicketEventId 0,
          calledBy := some actor }))
    | other => .fail (.invalidStateTransition other.state .callSpecific)

structure BatchMember where
  update : BatchedSave
  ticket : Ticket
deriving DecidableEq

/-- `index` tells which of the minted event ids the member takes. -/
def buildMember (actor : Actor) (index : Nat) (id : TicketId) :
    Effect σ QueueError BatchMember := do
  let loaded ← loadOrTicketNotFound repo id
  match guardActive loaded.state with
  | some terminal => .fail terminal
  | none =>
    match loaded.state with
    | ⟨waiting, .waiting⟩ =>
      let result := applyCall waiting
        { time := ports.nowInstant 0, eventId := ports.newTicketEventId index,
          calledBy := some actor, batchId := some ports.newBatchId }
      .succeed
        { update := { id := waiting.id, expected := loaded.revision, events := [result.event],
                      next := result.ticket }
          ticket := result.ticket }
    | other => .fail (.invalidStateTransition other.state .callBatch)

def buildMembers (actor : Actor) : Nat → List TicketId → Effect σ QueueError (List BatchMember)
  | _, [] => .succeed []
  | index, id :: rest => do
    let member ← buildMember repo ports actor index id
    let members ← buildMembers actor (index + 1) rest
    .succeed (member :: members)

/-- The list of ids is the head and the rest of a non-empty array. -/
def callBatch (firstId : TicketId) (restIds : List TicketId) (actor : Actor) :
    Effect σ QueueError (List Ticket) := do
  let members ← buildMembers repo ports actor 0 (firstId :: restIds)
  repo.saveBatch (members.map BatchMember.update)
  .succeed (members.map BatchMember.ticket)

/-! ### Commands on one ticket -/

def markServed (ticketId : TicketId) : Effect σ QueueError Ticket := do
  let loaded ← loadOrTicketNotFound repo ticketId
  match guardActive loaded.state with
  | some terminal => .fail terminal
  | none =>
    match loaded.state with
    | ⟨source, .called call⟩ | ⟨source, .overdue call _⟩ =>
      applyAndPersist repo loaded
        (some (applyMarkServed source call (ports.nowInstant 0) (ports.newTicketEventId 0)))
    | other => .fail (.invalidStateTransition other.state .markServed)

def markNoShow (ticketId : TicketId) (actor : Actor) : Effect σ QueueError Ticket := do
  let loaded ← loadOrTicketNotFound repo ticketId
  match guardActive loaded.state with
  | some terminal => .fail terminal
  | none =>
    match loaded.state with
    | ⟨source, .called call⟩ | ⟨source, .overdue call _⟩ =>
      applyAndPersist repo loaded
        (some (applyMarkNoShow source call (ports.nowInstant 0) (ports.newTicketEventId 0) actor))
    | other => .fail (.invalidStateTransition other.state .markNoShow)

def «recall» (ticketId : TicketId) (actor : Actor) : Effect σ QueueError Ticket := do
  let loaded ← loadOrTicketNotFound repo ticketId
  match guardActive loaded.state with
  | some terminal => .fail terminal
  | none =>
    match loaded.state with
    | ⟨source, .called _⟩ | ⟨source, .overdue _ _⟩ =>
      applyAndPersist repo loaded
        (some (applyRecall source (ports.nowInstant 0) (ports.newTicketEventId 0) actor))
    | other => .fail (.invalidStateTransition other.state .recall)

def cancelTicket (ticketId : TicketId) (actor : Actor) (reason : String)
    (handle : Option CustomerHandle) : Effect σ QueueError Ticket := do
  let loaded ← loadAs repo ticketId handle
  match guardActive loaded.state with
  | some terminal => .fail terminal
  | none =>
    match loaded.state with
    | ⟨cancellable, .waiting⟩ | ⟨cancellable, .called _⟩ | ⟨cancellable, .overdue _ _⟩ =>
      applyAndPersist repo loaded (some (applyCancel cancellable (ports.nowInstant 0)
        (ports.newTicketEventId 0) actor reason))
    | other => .fail (.invalidStateTransition other.state .cancel)

def moveToOverdue (ticketId : TicketId) : Effect σ QueueError Ticket := do
  let loaded ← loadOrTicketNotFound repo ticketId
  match guardActive loaded.state with
  | some terminal => .fail terminal
  | none =>
    match loaded.state with
    | ⟨called, .called call⟩ =>
      applyAndPersist repo loaded (some (applyMoveToOverdue called call (ports.nowInstant 0)
        (ports.newTicketEventId 0) .system))
    | other => .fail (.invalidStateTransition other.state .moveToOverdue)

def nudge (ticketId : TicketId) (channel : Channel) : Effect σ QueueError Ticket := do
  let loaded ← loadOrTicketNotFound repo ticketId
  match guardActive loaded.state with
  | some terminal => .fail terminal
  | none =>
    match loaded.state with
    | ⟨source, .overdue call overdue⟩ =>
      applyAndPersist repo loaded (some (applyNudge source call overdue (ports.nowInstant 0)
        (ports.newTicketEventId 0) channel .system))
    | other => .fail (.invalidStateTransition other.state .nudge)

def checkInWindowMinutes : Int := 10

/-- Nothing here asks whether the ticket has been checked in before. -/
def checkIn (ticketId : TicketId) : Effect σ QueueError Unit := do
  let loaded ← loadOr repo .ticketNotFound ticketId
  match loaded.state with
  | ⟨waiting, .waiting⟩ =>
    match waiting.appointmentAt with
    | none => .fail .appointmentRequiredForReservationLane
    | some appointmentAt =>
      let now := ports.nowInstant 0
      match appointmentAt.addMinutes (-checkInWindowMinutes) with
      | none => .fail .defect
      | some earliest =>
        if now.epochMilliseconds < earliest.epochMilliseconds then
          .fail (.checkInTooEarly appointmentAt now)
        else do
          let _ ← applyAndPersist repo loaded (some (applyCheckIn waiting (ports.nowInstant 1)
            (ports.newTicketEventId 0) .customer))
          .succeed ()
  | other => .fail (.invalidStateTransition other.state .checkIn)

def lapseAppointment (ticketId : TicketId) : Effect σ QueueError Ticket := do
  let loaded ← loadOrTicketNotFound repo ticketId
  match guardActive loaded.state with
  | some terminal => .fail terminal
  | none =>
    match loaded.state with
    | ⟨waiting, .waiting⟩ =>
      if waiting.lane ≠ .reservation then .fail (.laneMismatch waiting.lane .reservation)
      else if waiting.appointmentAt = none then .fail .appointmentRequiredForReservationLane
      else
        let lapsed := applyLapseAppointment waiting (ports.nowInstant 0) (ports.newTicketEventId 0)
        applyAndPersist repo loaded lapsed
    | other => .fail (.invalidStateTransition other.state .lapseAppointment)

structure RescheduleTicketInput where
  ticketId : TicketId
  newAppointmentAt : Instant
  granularity : SlotGranularity
  tz : BusinessTimeZone
  capacity : Int
  actor : Actor
  handle : Option CustomerHandle

/-- The slot the new instant falls into. -/
def RescheduleTicketInput.newSlot (input : RescheduleTicketInput) : Slot :=
  { date := input.tz.plainDate input.newAppointmentAt
    bucketId := bucketOf input.newAppointmentAt input.tz input.granularity
    granularity := input.granularity
    capacity := input.capacity }

def rescheduleTicket (input : RescheduleTicketInput) : Effect σ QueueError Ticket := do
  let loaded ← loadAs repo input.ticketId input.handle
  let t := loaded.state
  if t.state.isTerminal then .fail (.invalidStateTransition t.state .reschedule)
  else if t.lane ≠ .reservation then .fail (.laneMismatch t.lane .reservation)
  else
    match t.appointmentAt with
    | none => .fail (.invalidStateTransition t.state .reschedule)
    | some appointmentAt =>
      let now := ports.nowInstant 0
      if input.newAppointmentAt.epochNs < now.epochNs then .fail (.slotInPast input.newAppointmentAt)
      else if input.newAppointmentAt.epochNs = appointmentAt.epochNs then .succeed t
      else do
        let all ← Effect.inspect repo.listAll
        match occupancyExcludingSelf (.ofTickets all) t.id input.newSlot input.tz with
        | none => .fail .defect
        | some occupancy =>
          if input.capacity ≤ occupancy then
            .fail (.slotFull input.newSlot.date input.newSlot.bucketId input.newSlot.granularity
              input.capacity)
          else applyAndPersist repo loaded (applyReschedule t input.newAppointmentAt
            (ports.nowInstant 1) (ports.newTicketEventId 0) input.actor)

/-! ### All thirteen -/

inductive UseCase where
  | issueTicket (input : IssueTicketInput)
  | callNext (lane : Option Lane) (actor : Actor)
  | callSpecific (ticketId : TicketId) (actor : Actor)
  | callBatch (firstId : TicketId) (restIds : List TicketId) (actor : Actor)
  | markServed (ticketId : TicketId)
  | markNoShow (ticketId : TicketId) (actor : Actor)
  | recall (ticketId : TicketId) (actor : Actor)
  | cancelTicket (ticketId : TicketId) (actor : Actor) (reason : String)
      (handle : Option CustomerHandle)
  | moveToOverdue (ticketId : TicketId)
  | nudge (ticketId : TicketId) (channel : Channel)
  | checkIn (ticketId : TicketId)
  | lapseAppointment (ticketId : TicketId)
  | rescheduleTicket (input : RescheduleTicketInput)

inductive Reply where
  | ticket (t : Ticket)
  | tickets (ts : List Ticket)
  | undefined
deriving DecidableEq

def UseCase.run : UseCase → Effect σ QueueError Reply
  | .issueTicket input => return .ticket (← SlotBooking.issueTicket repo ports input)
  | .callNext lane actor => return .ticket (← SlotBooking.callNext repo ports lane actor)
  | .callSpecific id actor => return .ticket (← SlotBooking.callSpecific repo ports id actor)
  | .callBatch firstId restIds actor =>
    return .tickets (← SlotBooking.callBatch repo ports firstId restIds actor)
  | .markServed id => return .ticket (← SlotBooking.markServed repo ports id)
  | .markNoShow id actor => return .ticket (← SlotBooking.markNoShow repo ports id actor)
  | .recall id actor => return .ticket (← SlotBooking.recall repo ports id actor)
  | .cancelTicket id actor reason handle =>
    return .ticket (← SlotBooking.cancelTicket repo ports id actor reason handle)
  | .moveToOverdue id => return .ticket (← SlotBooking.moveToOverdue repo ports id)
  | .nudge id channel => return .ticket (← SlotBooking.nudge repo ports id channel)
  | .checkIn id => do
    SlotBooking.checkIn repo ports id
    return .undefined
  | .lapseAppointment id => return .ticket (← SlotBooking.lapseAppointment repo ports id)
  | .rescheduleTicket input => return .ticket (← SlotBooking.rescheduleTicket repo ports input)

/-- A sequence of calls, each with the clock and the ids it is given. -/
def runCalls (calls : List (Ports × UseCase)) (s : σ) : σ :=
  calls.foldl (fun s call => (call.2.run repo call.1 s).2) s

end

end SlotBooking
