import SlotBooking.Domain.Projection
import SlotBooking.Library.Effect

/-! The ports of the use cases: the event-sourced repository, the clock and the
id generator. -/
namespace SlotBooking

structure LoadedAggregate where
  state : Ticket
  revision : Nat
deriving DecidableEq

/-- A load which has found a ticket at a revision, or nothing. -/
def found : Option (Ticket × Nat) → Except QueueError LoadedAggregate
  | some (t, revision) => .ok ⟨t, revision⟩
  | none => .error .aggregateNotFound

structure BatchedSave where
  id : TicketId
  expected : Nat
  events : List TicketEvent
  next : Ticket
deriving DecidableEq

structure TicketRepository (σ : Type) where
  load : σ → TicketId → Except QueueError LoadedAggregate
  save : TicketId → Nat → List TicketEvent → Ticket → Effect σ QueueError Unit
  issue : TicketId → List TicketEvent → Ticket → Effect σ QueueError Unit
  saveBatch : List BatchedSave → Effect σ QueueError Unit
  nextSeq : Effect σ QueueError Nat
  listAll : σ → Except QueueError (List Ticket)
  findActiveByHandle : σ → CustomerHandle → Except QueueError (Option Ticket)

/-- What the clock and the id generator hand to one call: successive readings of the
clock, and the ids it mints. -/
structure Ports where
  nowInstant : Nat → Instant
  newTicketId : TicketId
  newTicketEventId : Nat → TicketEventId
  newBatchId : BatchId

end SlotBooking
