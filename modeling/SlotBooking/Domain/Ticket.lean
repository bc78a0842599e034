import SlotBooking.Domain.Slot
import SlotBooking.Domain.Text

/-! Tickets, their events and the errors of the queue. -/
namespace SlotBooking

/- A TypeID is its prefix and a suffix over [0-9a-z]. The prefix is the Lean type and the
suffix is read as a number, so the pattern check of a brand cannot fail on a value here. -/

structure TicketId where
  suffix : Nat
deriving DecidableEq

structure TicketEventId where
  suffix : Nat
deriving DecidableEq

structure BatchId where
  suffix : Nat
deriving DecidableEq

inductive Lane where
  | walkIn
  | reservation
deriving DecidableEq

def preferredLaneChain : List Lane := [.walkIn, .reservation]

inductive Actor where
  | customer
  | staff
  | system
deriving DecidableEq

inductive Channel where
  | ws
  | push
deriving DecidableEq

/-! ### Tickets -/

structure TicketCommon extends CustomerFields where
  id : TicketId
  seq : Nat
  lane : Lane
  displaySeq : Nat
  issuedAt : Instant
  appointmentAt : Option Instant
  checkedInAt : Option Instant
deriving DecidableEq

/-- The fields which Called, Overdue, Served and NoShow share. -/
structure CallStamp where
  calledAt : Instant
  calledBy : Actor
deriving DecidableEq

structure OverdueStamp where
  overdueAt : Instant
  lastNudgedAt : Option Instant
  nudgeCount : Nat
deriving DecidableEq

inductive TicketVariant where
  | waiting
  | called (call : CallStamp)
  | overdue (call : CallStamp) (overdue : OverdueStamp)
  | served (call : CallStamp) (servedAt : Instant) (servedBy : Actor)
  | noShow (call : CallStamp) (markedAt : Instant) (markedBy : Actor)
  | cancelled (cancelledAt : Instant) (cancelledBy : Actor) (reason : String)
deriving DecidableEq

structure Ticket extends TicketCommon where
  variant : TicketVariant
deriving DecidableEq

inductive TicketState where
  | waiting
  | called
  | overdue
  | served
  | noShow
  | cancelled
deriving DecidableEq

def TicketVariant.state : TicketVariant → TicketState
  | .waiting => .waiting
  | .called _ => .called
  | .overdue _ _ => .overdue
  | .served _ _ _ => .served
  | .noShow _ _ _ => .noShow
  | .cancelled _ _ _ => .cancelled

def Ticket.state (t : Ticket) : TicketState := t.variant.state

def TicketState.isTerminal : TicketState → Bool
  | .served | .noShow | .cancelled => true
  | .waiting | .called | .overdue => false

/-- The predicate `state IN ('Waiting','Called','Overdue')`. -/
def TicketState.isActive (s : TicketState) : Bool := !s.isTerminal

def Ticket.handle (t : Ticket) : CustomerHandle := t.toCustomerHandle

/-! ### Events -/

structure IssuedData extends CustomerFields where
  seq : Nat
  lane : Lane
  displaySeq : Nat
  appointmentAt : Option Instant
deriving DecidableEq

inductive EventBody where
  | issued (data : IssuedData)
  | called (calledBy : Actor) (batchId : Option BatchId)
  | servingStarted (servingStartedBy : Actor)
  | movedToOverdue (overdueBy : Actor)
  | nudged (nudgedBy : Actor) (nudgeCount : Nat) (channel : Channel)
  | appointmentLapsed (lapsedBy : Actor) (appointmentAt : Instant)
  | served (servedBy : Actor)
  | noShowed (markedBy : Actor)
  | cancelled (cancelledBy : Actor) (reason : String)
  | recalled (recalledBy : Actor)
  | checkedIn (checkedInBy : Actor)
  | rescheduled (fromAppointmentAt toAppointmentAt : Instant) (rescheduledBy : Actor)
deriving DecidableEq

/-- The literal schema version 1 of every event carries nothing and is left out. -/
structure TicketEvent where
  id : TicketEventId
  ticketId : TicketId
  occurredAt : Instant
  recordedAt : Instant
  body : EventBody
deriving DecidableEq

inductive TicketEventType where
  | issued
  | called
  | servingStarted
  | movedToOverdue
  | nudged
  | appointmentLapsed
  | served
  | noShowed
  | cancelled
  | recalled
  | checkedIn
  | rescheduled
deriving DecidableEq

def EventBody.type : EventBody → TicketEventType
  | .issued _ => .issued
  | .called _ _ => .called
  | .servingStarted _ => .servingStarted
  | .movedToOverdue _ => .movedToOverdue
  | .nudged _ _ _ => .nudged
  | .appointmentLapsed _ _ => .appointmentLapsed
  | .served _ => .served
  | .noShowed _ => .noShowed
  | .cancelled _ _ => .cancelled
  | .recalled _ => .recalled
  | .checkedIn _ => .checkedIn
  | .rescheduled _ _ _ => .rescheduled

def TicketEvent.type (e : TicketEvent) : TicketEventType := e.body.type

def EventBody.fields : EventBody → Option CustomerFields
  | .issued data => some data.toCustomerFields
  | _ => none

/-! ### Errors -/

inductive TicketCommand where
  | reschedule
  | callNext
  | callSpecific
  | callBatch
  | moveToOverdue
  | nudge
  | lapseAppointment
  | markServed
  | markNoShow
  | cancel
  | recall
  | checkIn
deriving DecidableEq

/-- The tagged errors of the queue. `defect` is an exception thrown inside a use case,
which is no failure of the typed channel. -/
inductive QueueError where
  | aggregateNotFound
  | concurrency (expected actual : Nat)
  | storage (reason : String)
  | ticketNotFound
  | phoneMismatch
  | queueEmpty
  | alreadyCancelled
  | alreadyCompleted
  | alreadyNoShow
  | invalidStateTransition (source : TicketState) (command : TicketCommand)
  | laneMismatch (ticketLane targetLane : Lane)
  | slotFull (date : PlainDate) (bucketId : Nat) (granularity : SlotGranularity) (capacity : Int)
  | slotInPast (appointmentAt : Instant)
  | appointmentRequiredForReservationLane
  | checkInTooEarly (appointmentAt now : Instant)
  | defect
deriving DecidableEq

end SlotBooking
