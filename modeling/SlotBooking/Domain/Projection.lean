import Mathlib.Data.List.Sort
import SlotBooking.Domain.Transitions
import SlotBooking.Library.InsertionMap

/-! The read model: the fold of the event log into a snapshot of tickets, and the
queries the use cases ask of a snapshot. -/
namespace SlotBooking

structure QueueSnapshot where
  tickets : InsertionMap TicketId Ticket

def QueueSnapshot.empty : QueueSnapshot := ⟨.empty⟩

def QueueSnapshot.get (snap : QueueSnapshot) (id : TicketId) : Option Ticket := snap.tickets.get id

def QueueSnapshot.set (snap : QueueSnapshot) (id : TicketId) (t : Ticket) : QueueSnapshot :=
  ⟨snap.tickets.set id t⟩

/-- The map the use cases build from a listing, keyed by ticket id. -/
def QueueSnapshot.ofTickets (tickets : List Ticket) : QueueSnapshot :=
  ⟨.ofList (tickets.map (fun t => (t.id, t)))⟩

/-- One step of the fold. An event whose prior state does not fit leaves the snapshot
as it is; `CheckedIn` keeps the earliest arrival. -/
def applyEvent (snap : QueueSnapshot) (event : TicketEvent) : QueueSnapshot :=
  match event.body with
  | .issued data =>
    snap.set event.ticketId
      { toCustomerFields := data.toCustomerFields, id := event.ticketId, seq := data.seq,
        lane := data.lane, displaySeq := data.displaySeq, issuedAt := event.occurredAt,
        appointmentAt := data.appointmentAt, checkedInAt := none, variant := .waiting }
  | .called calledBy _ =>
    match snap.get event.ticketId with
    | some ⟨prior, .waiting⟩ =>
      snap.set event.ticketId { prior with variant := .called ⟨event.occurredAt, calledBy⟩ }
    | _ => snap
  | .servingStarted _ => snap
  | .movedToOverdue _ =>
    match snap.get event.ticketId with
    | some ⟨prior, .called call⟩ =>
      snap.set event.ticketId { prior with variant := .overdue call ⟨event.occurredAt, none, 0⟩ }
    | _ => snap
  | .nudged _ nudgeCount _ =>
    match snap.get event.ticketId with
    | some ⟨prior, .overdue call overdue⟩ =>
      snap.set event.ticketId
        { prior with
          variant := .overdue call ⟨overdue.overdueAt, some event.occurredAt, nudgeCount⟩ }
    | _ => snap
  | .appointmentLapsed lapsedBy _ =>
    match snap.get event.ticketId with
    | some ⟨prior, .waiting⟩ =>
      snap.set event.ticketId
        { prior with variant := .cancelled event.occurredAt lapsedBy "appointment_lapsed" }
    | _ => snap
  | .served servedBy =>
    match snap.get event.ticketId with
    | some ⟨prior, .called call⟩ | some ⟨prior, .overdue call _⟩ =>
      snap.set event.ticketId { prior with variant := .served call event.occurredAt servedBy }
    | _ => snap
  | .noShowed markedBy =>
    match snap.get event.ticketId with
    | some ⟨prior, .called call⟩ | some ⟨prior, .overdue call _⟩ =>
      snap.set event.ticketId { prior with variant := .noShow call event.occurredAt markedBy }
    | _ => snap
  | .cancelled cancelledBy reason =>
    match snap.get event.ticketId with
    | some ⟨prior, .waiting⟩ | some ⟨prior, .called _⟩ | some ⟨prior, .overdue _ _⟩ =>
      snap.set event.ticketId
        { prior with variant := .cancelled event.occurredAt cancelledBy reason }
    | _ => snap
  | .recalled _ =>
    match snap.get event.ticketId with
    | some ⟨prior, .called _⟩ | some ⟨prior, .overdue _ _⟩ =>
      snap.set event.ticketId { prior with variant := .waiting }
    | _ => snap
  | .checkedIn _ =>
    match snap.get event.ticketId with
    | some ⟨prior, .waiting⟩ =>
      if prior.checkedInAt ≠ none then snap
      else snap.set event.ticketId
        { prior with checkedInAt := some event.occurredAt, variant := .waiting }
    | _ => snap
  | .rescheduled _ toAppointmentAt _ =>
    match snap.get event.ticketId with
    | some prior =>
      if prior.state.isTerminal then snap
      else if prior.lane ≠ .reservation then snap
      else snap.set event.ticketId { prior with appointmentAt := some toAppointmentAt }
    | none => snap

def applyMany (snap : QueueSnapshot) (events : List TicketEvent) : QueueSnapshot :=
  events.foldl applyEvent snap

def replay (events : List TicketEvent) : QueueSnapshot := applyMany .empty events

/-! ### Derived queries -/

def Ticket.isWaiting (t : Ticket) : Bool := t.state = .waiting

/-- The Waiting ticket of the lane with the lowest `displaySeq`; the first one of equals. -/
def headOfLane (snap : QueueSnapshot) (lane : Lane) : Option Ticket :=
  snap.tickets.values.foldl (fun best t =>
    if !t.isWaiting then best
    else if t.lane ≠ lane then best
    else match best with
      | none => some t
      | some b => if t.displaySeq < b.displaySeq then some t else best) none

def firstLaneWithWaiting (snap : QueueSnapshot) : Option Lane :=
  preferredLaneChain.find? (fun lane => (headOfLane snap lane).isSome)

/-- The Waiting reservations with their appointments, before they are sorted. -/
def reservationCandidates (snap : QueueSnapshot) : List (Ticket × Instant) :=
  snap.tickets.values.filterMap (fun t =>
    if !t.isWaiting then none
    else if t.lane ≠ .reservation then none
    else t.appointmentAt.map (fun apptAt => (t, apptAt)))

/-- The Waiting reservations by appointment; the sort is stable. -/
def reservationsByDeadline (snap : QueueSnapshot) : List Ticket :=
  ((reservationCandidates snap).insertionSort
    (fun a b => a.2.epochNs ≤ b.2.epochNs)).map Prod.fst

/-- No value where `now + grace` leaves the range of instants, where Temporal throws. -/
def firstLaneWithCallable (snap : QueueSnapshot) (now : Instant) (graceMinutes : Int) :
    Option (Option Lane) :=
  match (reservationsByDeadline snap).head? with
  | none => some (firstLaneWithWaiting snap)
  | some reservationHead =>
    match reservationHead.appointmentAt with
    | none => some (firstLaneWithWaiting snap)
    | some appointmentAt => do
      let cutoff ← now.addMinutes graceMinutes
      return if appointmentAt.epochNs ≤ cutoff.epochNs then some .reservation
        else firstLaneWithWaiting snap

def nextCallable (snap : QueueSnapshot) (now : Instant) (graceMinutes : Int) :
    Option (Option Ticket) := do
  match ← firstLaneWithCallable snap now graceMinutes with
  | none => return none
  | some .reservation => return (reservationsByDeadline snap).head?
  | some lane => return headOfLane snap lane

def head (snap : QueueSnapshot) : Option Lane → Option Ticket
  | some lane => headOfLane snap lane
  | none => (firstLaneWithWaiting snap).bind (headOfLane snap)

def isActiveForHandle (t : Ticket) : Bool := t.state.isActive

def occupiesSlot (startAt : Instant) (t : Ticket) : Bool :=
  match t.appointmentAt with
  | none => false
  | some apptAt =>
    t.lane = .reservation && isActiveForHandle t && apptAt.epochNs == startAt.epochNs

def slotOccupancy (snap : QueueSnapshot) (slot : Slot) (tz : BusinessTimeZone) : Option Nat := do
  let interval ← intervalOf slot tz
  return snap.tickets.values.countP (occupiesSlot interval.startAt)

def occupancyExcludingSelf (snap : QueueSnapshot) (excludeTicketId : TicketId) (slot : Slot)
    (tz : BusinessTimeZone) : Option Nat := do
  let interval ← intervalOf slot tz
  return snap.tickets.values.countP
    (fun t => t.id ≠ excludeTicketId && occupiesSlot interval.startAt t)

def nextDisplaySeq (snap : QueueSnapshot) : Nat :=
  snap.tickets.values.foldl (fun max t => if t.displaySeq > max then t.displaySeq else max) 0 + 1

def findActiveByHandle (snap : QueueSnapshot) (handle : CustomerHandle) : Option Ticket :=
  snap.tickets.values.find? (fun t => isActiveForHandle t && equalsCustomerHandle t.handle handle)

end SlotBooking
