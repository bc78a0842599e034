import SlotBooking.Domain.Evolution

/-! What one transition does to a ticket that exists: where it may start, what it
carries over, and how the fold follows it. -/
namespace SlotBooking

/-- Called or Overdue, after the call `call`. -/
def TicketVariant.Serving (variant : TicketVariant) (call : CallStamp) : Prop :=
  variant = .called call ∨ ∃ stamp, variant = .overdue call stamp

/-- The transitions the use cases apply, each with the states its use case admits. -/
inductive Move : Ticket → ApplyResult → Prop where
  | call (t : TicketCommon) (args : CallArgs) : Move ⟨t, .waiting⟩ (applyCall t args)
  | moveToOverdue (t : TicketCommon) (stamp : CallStamp) (time : Instant) (eventId : TicketEventId)
      (actor : Actor) :
      Move ⟨t, .called stamp⟩ (applyMoveToOverdue t stamp time eventId actor)
  | nudge (t : TicketCommon) (stamp : CallStamp) (overdue : OverdueStamp) (time : Instant)
      (eventId : TicketEventId) (channel : Channel) (actor : Actor) :
      Move ⟨t, .overdue stamp overdue⟩ (applyNudge t stamp overdue time eventId channel actor)
  | markServed (t : TicketCommon) (variant : TicketVariant) (stamp : CallStamp)
      (serving : variant.Serving stamp) (time : Instant) (eventId : TicketEventId) (actor : Actor) :
      Move ⟨t, variant⟩ (applyMarkServed t stamp time eventId actor)
  | markNoShow (t : TicketCommon) (variant : TicketVariant) (stamp : CallStamp)
      (serving : variant.Serving stamp) (time : Instant) (eventId : TicketEventId) (actor : Actor) :
      Move ⟨t, variant⟩ (applyMarkNoShow t stamp time eventId actor)
  | «recall» (t : TicketCommon) (variant : TicketVariant) (stamp : CallStamp)
      (serving : variant.Serving stamp) (time : Instant) (eventId : TicketEventId) (actor : Actor) :
      Move ⟨t, variant⟩ (applyRecall t time eventId actor)
  | cancel (t : TicketCommon) (variant : TicketVariant) (active : variant.state.isActive)
      (time : Instant) (eventId : TicketEventId) (actor : Actor) (reason : String) :
      Move ⟨t, variant⟩ (applyCancel t time eventId actor reason)
  | lapseAppointment (t : TicketCommon) (time : Instant) (eventId : TicketEventId)
      (result : ApplyResult) (applied : applyLapseAppointment t time eventId = some result) :
      Move ⟨t, .waiting⟩ result
  | checkIn (t : TicketCommon) (time : Instant) (eventId : TicketEventId) (actor : Actor) :
      Move ⟨t, .waiting⟩ (applyCheckIn t time eventId actor)
  | reschedule (t : Ticket) (active : t.state.isActive) (lane : t.lane = .reservation)
      (target time : Instant) (eventId : TicketEventId) (actor : Actor) (result : ApplyResult)
      (applied : applyReschedule t target time eventId actor = some result) : Move t result

theorem applyLapseAppointment_eq_some {t : TicketCommon} {time : Instant} {eventId : TicketEventId}
    {result : ApplyResult} (applied : applyLapseAppointment t time eventId = some result) :
    ∃ appointmentAt, t.appointmentAt = some appointmentAt ∧ result =
      { ticket := { t with variant := .cancelled time .system "appointment_lapsed" }
        event := baseEvent eventId t.id time (.appointmentLapsed .system appointmentAt) } := by
  unfold applyLapseAppointment at applied
  split at applied
  · cases applied
  · rename_i appointmentAt h
    exact ⟨appointmentAt, h, (Option.some.inj applied).symm⟩

theorem applyReschedule_eq_some {t : Ticket} {target time : Instant} {eventId : TicketEventId}
    {actor : Actor} {result : ApplyResult}
    (applied : applyReschedule t target time eventId actor = some result) :
    ∃ source, t.appointmentAt = some source ∧ result =
      { ticket := { t with appointmentAt := some target }
        event := baseEvent eventId t.id time (.rescheduled source target actor) } := by
  unfold applyReschedule at applied
  split at applied
  · cases applied
  · rename_i source h
    exact ⟨source, h, (Option.some.inj applied).symm⟩

namespace Move

variable {t : Ticket} {result : ApplyResult}

/-- What a transition carries over, and what its event says of it. -/
theorem carried (move : Move t result) : t.SameCore result.ticket ∧
    result.event.ticketId = t.id ∧ result.event.body.fields = none := by
  cases move with
  | lapseAppointment t time eventId result applied =>
    obtain ⟨appointmentAt, _, rfl⟩ := applyLapseAppointment_eq_some applied
    exact ⟨⟨rfl, rfl, rfl, rfl, rfl, rfl⟩, rfl, rfl⟩
  | reschedule t active lane target time eventId actor result applied =>
    obtain ⟨source, _, rfl⟩ := applyReschedule_eq_some applied
    exact ⟨⟨rfl, rfl, rfl, rfl, rfl, rfl⟩, rfl, rfl⟩
  | _ => exact ⟨⟨rfl, rfl, rfl, rfl, rfl, rfl⟩, rfl, rfl⟩

theorem sameCore (move : Move t result) : t.SameCore result.ticket := move.carried.1

theorem event_ticketId (move : Move t result) : result.event.ticketId = t.id := move.carried.2.1

theorem event_fields (move : Move t result) : result.event.body.fields = none := move.carried.2.2

theorem checkIn_of_type (move : Move t result) (isCheckIn : result.event.type = .checkedIn) :
    ∃ waiting time eventId actor, t = ⟨waiting, .waiting⟩ ∧
      result = applyCheckIn waiting time eventId actor := by
  cases move with
  | checkIn t time eventId actor => exact ⟨t, time, eventId, actor, rfl, rfl⟩
  | lapseAppointment t time eventId result applied =>
    obtain ⟨appointmentAt, _, rfl⟩ := applyLapseAppointment_eq_some applied
    cases isCheckIn
  | reschedule t active lane target time eventId actor result applied =>
    obtain ⟨source, _, rfl⟩ := applyReschedule_eq_some applied
    cases isCheckIn
  | _ => cases isCheckIn

theorem source_active (move : Move t result) : t.state.isActive := by
  cases move with
  | markServed t variant stamp serving | markNoShow t variant stamp serving
  | «recall» t variant stamp serving =>
    rcases serving with rfl | ⟨overdue, rfl⟩
    · rfl
    · rfl
  | cancel t variant active => exact active
  | reschedule t active => exact active
  | _ => rfl

/-- The fold follows a transition to its ticket, unless it is a repeated check-in. -/
theorem evolve_eq (move : Move t result)
    (once : result.event.type = .checkedIn → t.checkedInAt = none) :
    evolve (some t) result.event = some result.ticket := by
  cases move with
  | markServed t variant stamp serving | markNoShow t variant stamp serving
  | «recall» t variant stamp serving =>
    rcases serving with rfl | ⟨overdue, rfl⟩
    · simp [evolve, applyEvent, applyMarkServed, applyMarkNoShow, applyRecall, baseEvent]
    · simp [evolve, applyEvent, applyMarkServed, applyMarkNoShow, applyRecall, baseEvent]
  | cancel t variant active =>
    cases variant with
    | waiting | called | overdue => simp [evolve, applyEvent, applyCancel, baseEvent]
    | served | noShow | cancelled => cases active
  | lapseAppointment t time eventId result applied =>
    obtain ⟨appointmentAt, _, rfl⟩ := applyLapseAppointment_eq_some applied
    simp [evolve, applyEvent, baseEvent]
  | checkIn t time eventId actor =>
    have first : t.checkedInAt = none := once rfl
    simp [evolve, applyEvent, applyCheckIn, baseEvent, first]
  | reschedule t active lane target time eventId actor result applied =>
    obtain ⟨source, _, rfl⟩ := applyReschedule_eq_some applied
    have open_ : t.state.isTerminal = false := by simpa [TicketState.isActive] using active
    simp [evolve, applyEvent, baseEvent, open_, lane]
  | _ => simp [evolve, applyEvent, applyCall, applyMoveToOverdue, applyNudge, baseEvent]

/-- A repeated check-in moves the time of arrival on the ticket; the fold keeps the first. -/
theorem evolve_checkIn_again {t : TicketCommon} (again : t.checkedInAt ≠ none) (time : Instant)
    (eventId : TicketEventId) (actor : Actor) :
    evolve (some ⟨t, .waiting⟩) (applyCheckIn t time eventId actor).event =
      some ⟨t, .waiting⟩ := by
  simp [evolve, applyEvent, applyCheckIn, baseEvent, again]

end Move

end SlotBooking
