import SlotBooking.Domain.Moves

/-! A ticket without its texts and without the time of arrival. Those are the only fields
on which the stored row, the snapshot and the log of a ticket can come to disagree, so the
outline is what they share in every run. -/
namespace SlotBooking

def CustomerFields.blank : CustomerFields := ⟨⟨[], []⟩, none⟩

def Ticket.outline (t : Ticket) : Ticket :=
  { t with toCustomerFields := .blank, checkedInAt := none }

def EventBody.outline : EventBody → EventBody
  | .issued data => .issued { data with toCustomerFields := .blank }
  | body => body

def TicketEvent.outline (e : TicketEvent) : TicketEvent := { e with body := e.body.outline }

def evolveOutline (prior : Option Ticket) (e : TicketEvent) : Option Ticket :=
  (evolve prior e).map Ticket.outline

@[simp] theorem Ticket.outline_id (t : Ticket) : t.outline.id = t.id := rfl

@[simp] theorem Ticket.outline_seq (t : Ticket) : t.outline.seq = t.seq := rfl

@[simp] theorem Ticket.outline_displaySeq (t : Ticket) : t.outline.displaySeq = t.displaySeq := rfl

@[simp] theorem Ticket.outline_state (t : Ticket) : t.outline.state = t.state := rfl

@[simp] theorem TicketEvent.outline_ticketId (e : TicketEvent) :
    e.outline.ticketId = e.ticketId := rfl

/-- Texts and arrival times never decide what the fold does to the other fields. -/
theorem evolve_outline (prior : Option Ticket) (e : TicketEvent) :
    (evolve prior e).map Ticket.outline =
      evolveOutline (prior.map Ticket.outline) e.outline := by
  obtain ⟨id, ticketId, occurredAt, recordedAt, body⟩ := e
  unfold evolveOutline TicketEvent.outline evolve
  cases prior with
  | none => cases body <;> simp [EventBody.outline, applyEvent, Ticket.outline]
  | some t =>
    obtain ⟨t, variant⟩ := t
    cases body with
    | checkedIn actor =>
      by_cases seen : t.checkedInAt = none
      · cases variant <;> simp [EventBody.outline, applyEvent, Ticket.outline, seen]
      · cases variant <;> simp [EventBody.outline, applyEvent, Ticket.outline, seen]
    | rescheduled source target actor =>
      by_cases lane : t.lane = .reservation
      · cases variant <;> simp [EventBody.outline, applyEvent, Ticket.outline, lane,
          Ticket.state, TicketVariant.state, TicketState.isTerminal]
      · cases variant <;> simp [EventBody.outline, applyEvent, Ticket.outline, lane]
    | _ => cases variant <;> simp [EventBody.outline, applyEvent, Ticket.outline]

theorem evolveAll_outline (prior : Option Ticket) (events : List TicketEvent) :
    (evolveAll prior events).map Ticket.outline =
      EventSourcing.fold evolveOutline (prior.map Ticket.outline)
        (events.map TicketEvent.outline) :=
  EventSourcing.fold_map evolve_outline prior events

theorem Move.evolve_outline {t : Ticket} {result : ApplyResult} (move : Move t result) :
    (evolve (some t) result.event).map Ticket.outline = some result.ticket.outline := by
  by_cases once : result.event.type = .checkedIn → t.checkedInAt = none
  · rw [move.evolve_eq once, Option.map_some]
  · obtain ⟨isCheckIn, again⟩ := Classical.not_imp.mp once
    obtain ⟨waiting, time, eventId, actor, rfl, rfl⟩ := move.checkIn_of_type isCheckIn
    rw [Move.evolve_checkIn_again again]
    rfl

end SlotBooking
