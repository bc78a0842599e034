import SlotBooking.Domain.Ticket

/-! The transitions of a ticket. Each gives the next ticket and the event that
records it. The source narrows the type of its argument to the states a
transition starts from; here the narrowed fields are arguments of their own. -/
namespace SlotBooking

structure ApplyResult where
  ticket : Ticket
  event : TicketEvent
deriving DecidableEq

def baseEvent (id : TicketEventId) (ticketId : TicketId) (time : Instant) (body : EventBody) :
    TicketEvent :=
  { id, ticketId, occurredAt := time, recordedAt := time, body }

structure IssueArgs extends CustomerFields where
  id : TicketId
  seq : Nat
  lane : Lane
  displaySeq : Nat
  appointmentAt : Option Instant
  time : Instant
  eventId : TicketEventId
deriving DecidableEq

def applyIssue (args : IssueArgs) : ApplyResult :=
  { ticket :=
      { toCustomerFields := args.toCustomerFields, id := args.id, seq := args.seq,
        lane := args.lane, displaySeq := args.displaySeq, issuedAt := args.time,
        appointmentAt := args.appointmentAt, checkedInAt := none, variant := .waiting }
    event := baseEvent args.eventId args.id args.time
      (.issued { toCustomerFields := args.toCustomerFields, seq := args.seq, lane := args.lane,
                 displaySeq := args.displaySeq, appointmentAt := args.appointmentAt }) }

structure CallArgs where
  time : Instant
  eventId : TicketEventId
  calledBy : Option Actor := none
  batchId : Option BatchId := none
deriving DecidableEq

def applyCall (t : TicketCommon) (args : CallArgs) : ApplyResult :=
  let calledBy := args.calledBy.getD .staff
  { ticket := { t with variant := .called ⟨args.time, calledBy⟩ }
    event := baseEvent args.eventId t.id args.time (.called calledBy args.batchId) }

def applyMoveToOverdue (t : TicketCommon) (call : CallStamp) (time : Instant)
    (eventId : TicketEventId) (overdueBy : Actor := .system) : ApplyResult :=
  { ticket := { t with variant := .overdue call ⟨time, none, 0⟩ }
    event := baseEvent eventId t.id time (.movedToOverdue overdueBy) }

def applyNudge (t : TicketCommon) (call : CallStamp) (overdue : OverdueStamp) (time : Instant)
    (eventId : TicketEventId) (channel : Channel) (nudgedBy : Actor := .system) : ApplyResult :=
  let nextCount := overdue.nudgeCount + 1
  { ticket := { t with variant := .overdue call ⟨overdue.overdueAt, some time, nextCount⟩ }
    event := baseEvent eventId t.id time (.nudged nudgedBy nextCount channel) }

def applyMarkServed (t : TicketCommon) (call : CallStamp) (time : Instant)
    (eventId : TicketEventId) (servedBy : Actor := .staff) : ApplyResult :=
  { ticket := { t with variant := .served call time servedBy }
    event := baseEvent eventId t.id time (.served servedBy) }

def applyMarkNoShow (t : TicketCommon) (call : CallStamp) (time : Instant)
    (eventId : TicketEventId) (markedBy : Actor := .staff) : ApplyResult :=
  { ticket := { t with variant := .noShow call time markedBy }
    event := baseEvent eventId t.id time (.noShowed markedBy) }

def applyRecall (t : TicketCommon) (time : Instant) (eventId : TicketEventId)
    (recalledBy : Actor := .staff) : ApplyResult :=
  { ticket := { t with variant := .waiting }
    event := baseEvent eventId t.id time (.recalled recalledBy) }

def applyCancel (t : TicketCommon) (time : Instant) (eventId : TicketEventId)
    (cancelledBy : Actor) (reason : String) : ApplyResult :=
  { ticket := { t with variant := .cancelled time cancelledBy reason }
    event := baseEvent eventId t.id time (.cancelled cancelledBy reason) }

/-- Throws where the ticket has no appointment. -/
def applyLapseAppointment (t : TicketCommon) (time : Instant) (eventId : TicketEventId) :
    Option ApplyResult :=
  match t.appointmentAt with
  | none => none
  | some appointmentAt => some
      { ticket := { t with variant := .cancelled time .system "appointment_lapsed" }
        event := baseEvent eventId t.id time (.appointmentLapsed .system appointmentAt) }

def applyCheckIn (t : TicketCommon) (time : Instant) (eventId : TicketEventId)
    (checkedInBy : Actor := .customer) : ApplyResult :=
  { ticket := { t with checkedInAt := some time, variant := .waiting }
    event := baseEvent eventId t.id time (.checkedIn checkedInBy) }

/-- Throws where the ticket has no appointment. The variant stays as it is. -/
def applyReschedule (t : Ticket) (newAppointmentAt : Instant) (time : Instant)
    (eventId : TicketEventId) (rescheduledBy : Actor := .customer) : Option ApplyResult :=
  match t.appointmentAt with
  | none => none
  | some fromAppointmentAt => some
      { ticket := { t with appointmentAt := some newAppointmentAt }
        event := baseEvent eventId t.id time
          (.rescheduled fromAppointmentAt newAppointmentAt rescheduledBy) }

def terminalError : TicketState → Option QueueError
  | .cancelled => some .alreadyCancelled
  | .served => some .alreadyCompleted
  | .noShow => some .alreadyNoShow
  | _ => none

def guardActive (t : Ticket) : Option QueueError := terminalError t.state

end SlotBooking
