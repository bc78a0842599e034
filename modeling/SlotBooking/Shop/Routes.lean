import SlotBooking.Runs.Advances
import SlotBooking.Shop.Dispatch

/-! What the HTTP routes can make of a ticket. The transitions of the alarm are out of their
reach, so only a call makes a ticket Called and nothing makes one Overdue. -/
namespace SlotBooking

/-- What the routes can send. -/
def QueueAction.Routed : QueueAction → Prop
  | .moveToOverdue _ | .nudge _ _ | .lapseAppointment _ => False
  | .markNoShow _ actor => actor = .staff
  | _ => True

def UseCase.Routed : UseCase → Prop
  | .moveToOverdue _ | .nudge _ _ | .lapseAppointment _ => False
  | .markNoShow _ actor => actor = .staff
  | _ => True

/-- Called or Overdue. -/
def TicketState.isServing : TicketState → Bool
  | .called | .overdue => true
  | _ => false

/-- The events which only the alarm writes. -/
def EventBody.ofAlarm : EventBody → Bool
  | .movedToOverdue _ | .nudged _ _ _ | .appointmentLapsed _ _ | .noShowed .system => true
  | _ => false

/-- A call of a Waiting ticket, with the time it stamps. -/
inductive Calls (reads : Reads) (ports : Ports) : UseCase → TicketId → Instant → Prop where
  | next (lane : Option Lane) (actor : Actor) (all : List Ticket) (next : Ticket)
      (t : TicketCommon) (revision : Nat) (listed : reads.listAll = .ok all)
      (picked : pickNext all (ports.nowInstant 0) lane = some (some next))
      (read : reads.load next.id = .ok ⟨⟨t, .waiting⟩, revision⟩) :
      Calls reads ports (.callNext lane actor) t.id (ports.nowInstant 1)
  | specific (id : TicketId) (actor : Actor) (t : TicketCommon) (revision : Nat)
      (read : reads.load id = .ok ⟨⟨t, .waiting⟩, revision⟩) :
      Calls reads ports (.callSpecific id actor) t.id (ports.nowInstant 0)
  | batch (firstId : TicketId) (restIds : List TicketId) (actor : Actor) (id : TicketId)
      (mem : id ∈ firstId :: restIds) (waits : reads.Waits id) :
      Calls reads ports (.callBatch firstId restIds actor) id (ports.nowInstant 0)

/-- A reschedule which is admitted, with the instant it moves the ticket to. -/
def RescheduledTo (reads : Reads) (ports : Ports) (c : UseCase) (id : TicketId) (target : Instant) :
    Prop :=
  ∃ input loaded, c = .rescheduleTicket input ∧ reads.load input.ticketId = .ok loaded ∧
    loaded.state.id = id ∧ Admitted reads ports input loaded.state ∧ input.newAppointmentAt = target

/-- What a command of the routes leaves of a ticket. -/
structure RoutedResult (reads : Reads) (ports : Ports) (id : TicketId) (t : Ticket) (c : UseCase)
    (result : ApplyResult) : Prop where
  lane : result.ticket.lane = t.lane
  appointmentAt : result.ticket.appointmentAt = t.appointmentAt ∨
    ∃ target, result.ticket.appointmentAt = some target ∧ RescheduledTo reads ports c id target
  called : ∀ call, result.ticket.variant = .called call →
    t.variant = .called call ∨ Calls reads ports c id call.calledAt
  overdue : ∀ call stamp, result.ticket.variant = .overdue call stamp →
    t.variant = .overdue call stamp
  event : result.event.body.ofAlarm = false

section
variable {reads : Reads} {ports : Ports} {id : TicketId} {t : Ticket} {c : UseCase}
  {result : ApplyResult}

theorem routed_useCase {instants : InstantText} {action : QueueAction} (routed : action.Routed)
    (read : action.useCase instants = some c) : c.Routed := by
  cases action with
  | issueTicket | rescheduleTicket =>
    obtain ⟨_, _, rfl⟩ := Option.map_eq_some_iff.mp read
    trivial
  | moveToOverdue | nudge | lapseAppointment => cases routed
  | markNoShow id actor =>
    cases read
    exact routed
  | _ =>
    cases read
    trivial

theorem dispatched_kept {u : Unicode} {instants : InstantText} {s : DurableStore} (kept : s.Kept)
    (call : Ports × QueueAction) : (dispatched u instants s call).Kept :=
  (dispatch_steps kept).kept kept

theorem dispatched_advance {u : Unicode} {instants : InstantText} {s : DurableStore} (kept : s.Kept)
    {call : Ports × QueueAction} (read : call.2.useCase instants = some c) {revision : Nat}
    (present : (s.aggregate id).latest = some (t, revision)) :
    ∃ advance, Advance ((Durable.repository u Durable.snapshotInterval).reads s) call.1 id t c
        advance ∧
      Advanced (s.aggregate id) ((dispatched u instants s call).aggregate id) t advance := by
  rw [dispatched, dispatch_store read]
  exact call_advance kept call.1 c present

theorem RoutedResult.of_call {q : TicketCommon} {args : CallArgs}
    (same : t.outline = (⟨q, .waiting⟩ : Ticket).outline)
    (calls : Calls reads ports c id args.time) :
    RoutedResult reads ports id t c (applyCall q args) where
  lane := congrArg (fun t => t.lane) same.symm
  appointmentAt := .inl (congrArg (fun t => t.appointmentAt) same.symm)
  called := by
    rintro call ⟨⟩
    exact .inr calls
  overdue := by
    rintro call stamp ⟨⟩
  event := rfl

/-- Neither Called nor Overdue afterwards. -/
theorem RoutedResult.of_other {loaded : Ticket} (same : t.outline = loaded.outline)
    (lane : result.ticket.lane = loaded.lane)
    (appointmentAt : result.ticket.appointmentAt = loaded.appointmentAt)
    (state : result.ticket.state.isServing = false)
    (event : result.event.body.ofAlarm = false) : RoutedResult reads ports id t c result where
  lane := lane.trans (congrArg (fun t => t.lane) same.symm)
  appointmentAt := .inl (appointmentAt.trans (congrArg (fun t => t.appointmentAt) same.symm))
  called := by
    intro call called
    rw [Ticket.state, called] at state
    cases state
  overdue := by
    intro call stamp overdue
    rw [Ticket.state, overdue] at state
    cases state
  event := event

theorem Advance.routedResult (advance : Advance reads ports id t c (some result))
    (routed : c.Routed) : RoutedResult reads ports id t c result := by
  cases advance with
  | batched firstId restIds actor index q mem waits same =>
    exact .of_call same (.batch firstId restIds actor id mem waits)
  | applied _ loaded _ own same applies =>
    cases applies with
    | callNext inLane actor all next q revision listed picked read =>
      subst own
      exact .of_call same (.next inLane actor all next q revision listed picked read)
    | callSpecific called actor q revision read =>
      subst own
      exact .of_call same (.specific called actor q revision read)
    | markServed | «recall» | cancelTicket | checkIn =>
      exact .of_other same rfl rfl rfl rfl
    | markNoShow called actor =>
      cases routed
      exact .of_other same rfl rfl rfl rfl
    | moveToOverdue | nudge | lapseAppointment => cases routed
    | rescheduleTicket input _ _ read admitted applied =>
      obtain ⟨source, _, rfl⟩ := applyReschedule_eq_some applied
      have variant : t.variant = loaded.state.variant := congrArg (fun t => t.variant) same
      have lane : t.lane = loaded.state.lane := congrArg (fun t => t.lane) same
      refine ⟨lane.symm, .inr ⟨_, rfl, input, loaded, rfl, read, own, admitted, rfl⟩, ?_, ?_, rfl⟩
      · exact fun call called => .inl (variant.trans called)
      · exact fun call stamp overdue => variant.trans overdue

end

end SlotBooking
