import SlotBooking.Http.Authorisation
import SlotBooking.Shop.SlotGrid

/-! What the reschedule route makes of a body. The boundary takes any string for the new
appointment; the actor reads an instant out of it, and throws where there is none. -/
namespace SlotBooking

section
variable (u : Unicode) (instants : InstantText) (env : Env) (ports : Ports) (request : HttpRequest)

/-- A request which the route lets through to the actor. -/
structure LetThrough (id : TicketId) (body : RescheduleBody) : Prop where
  limit : env.limit .verify ≠ some false
  path : decodeTicketId request.id = some id
  parsed : ∃ raw, request.body = .json raw ∧ decodeRescheduleBody u raw = .ok body
  standing : rescheduleIsStaff env request = true ∨ body.handle ≠ none

/-- What `RescheduleTicket` is called with, once the new appointment is read. -/
def RescheduleBody.input (body : RescheduleBody) (id : TicketId) (target : Instant) :
    RescheduleTicketInput :=
  { ticketId := id, newAppointmentAt := target, granularity := env.granularity, tz := env.tz,
    capacity := env.capacity,
    actor := if rescheduleIsStaff env request then .staff else .customer
    handle := if rescheduleIsStaff env request then none else body.handle }

end

section
variable {u : Unicode} {instants : InstantText} {env : Env} {ports : Ports} {request : HttpRequest}
  {s : DurableStore} {id : TicketId}

/-! ### Defects of a reschedule -/

/-- One request lets through one id and one body. -/
theorem LetThrough.unique {id' : TicketId} {body body' : RescheduleBody}
    (through : LetThrough u env request id body) (through' : LetThrough u env request id' body') :
    id' = id ∧ body' = body := by
  obtain ⟨raw, parsed, decoded⟩ := through.parsed
  obtain ⟨raw', parsed', decoded'⟩ := through'.parsed
  cases through.path.symm.trans through'.path
  cases parsed.symm.trans parsed'
  cases decoded.symm.trans decoded'
  exact ⟨rfl, rfl⟩

end

namespace Sample

end Sample

end SlotBooking
