import SlotBooking.Adapters.MemoryState
import SlotBooking.Domain.Lockstep
import SlotBooking.Runs.Steps

/-! Late duplicates. An event is delivered at least once, and a second delivery meets
whatever its ticket has become in the meantime. -/
namespace SlotBooking

/-- The ticket is not, or no longer, where the event would change it once more. -/
def TicketEvent.Spent (t : Ticket) (e : TicketEvent) : Prop :=
  match e.body with
  | .issued data =>
    t.state = .waiting ∧ t.appointmentAt = data.appointmentAt ∧ t.checkedInAt = none
  | .called _ _ => t.state ≠ .waiting
  | .movedToOverdue _ => t.state ≠ .called
  | .nudged _ nudgeCount _ => ∀ call stamp, t.variant = .overdue call stamp →
      stamp.nudgeCount = nudgeCount ∧ stamp.lastNudgedAt = some e.occurredAt
  | .recalled _ => t.state ≠ .called ∧ t.state ≠ .overdue
  | .rescheduled _ toAppointmentAt _ =>
    t.state.isTerminal = true ∨ t.appointmentAt = some toAppointmentAt
  | .servingStarted _ | .appointmentLapsed _ _ | .served _ | .noShowed _ | .cancelled _ _
  | .checkedIn _ => True

/-- What an event leaves on its ticket for good. -/
def TicketEvent.Marked (t : Ticket) (e : TicketEvent) : Prop :=
  match e.body with
  | .issued data => (issuedTicket e.ticketId e.occurredAt data).SameCore t
  | .appointmentLapsed _ _ | .served _ | .noShowed _ | .cancelled _ _ => t.state.isTerminal = true
  | .checkedIn _ => t.checkedInAt ≠ none
  | .rescheduled _ _ _ => t.lane = .reservation
  | .called _ _ | .servingStarted _ | .movedToOverdue _ | .nudged _ _ _ | .recalled _ => True

theorem Ticket.SameCore.eq_issuedTicket {t : Ticket} {ticketId : TicketId} {issuedAt : Instant}
    {data : IssuedData} (same : (issuedTicket ticketId issuedAt data).SameCore t) :
    issuedTicket ticketId issuedAt data = t ↔
      t.state = .waiting ∧ t.appointmentAt = data.appointmentAt ∧ t.checkedInAt = none := by
  constructor
  · rintro rfl
    exact ⟨rfl, rfl, rfl⟩
  · obtain ⟨⟨fields, id, seq, lane, displaySeq, issuedAt', appointmentAt, checkedInAt⟩, variant⟩ := t
    obtain ⟨sameFields, sameId, sameSeq, sameLane, sameDisplay, sameIssued⟩ := same
    cases sameFields
    cases sameId
    cases sameSeq
    cases sameLane
    cases sameDisplay
    cases sameIssued
    rintro ⟨waits, rfl, rfl⟩
    cases variant with
    | waiting => rfl
    | _ => cases waits

/-- A second delivery is harmless exactly where the event is spent. -/
theorem evolve_again_iff {t : Ticket} {e : TicketEvent} (marked : e.Marked t) :
    evolve (some t) e = some t ↔ e.Spent t := by
  obtain ⟨id, ticketId, occurredAt, recordedAt, body⟩ := e
  cases body with
  | issued data =>
    rw [evolve_issued _ rfl, Option.some.injEq]
    exact Ticket.SameCore.eq_issuedTicket marked
  | checkedIn actor =>
    obtain ⟨t, variant⟩ := t
    have seen : t.checkedInAt ≠ none := marked
    cases variant <;> simp [evolve, applyEvent, TicketEvent.Spent, seen]
  | rescheduled source target actor =>
    obtain ⟨t, variant⟩ := t
    have lane : t.lane = .reservation := marked
    obtain ⟨fields, id, seq, lane', displaySeq, issuedAt, appointmentAt, checkedInAt⟩ := t
    cases variant <;>
      simp_all [evolve, applyEvent, TicketEvent.Spent, Ticket.state, TicketVariant.state,
        TicketState.isTerminal, eq_comm]
  | nudged actor nudgeCount channel =>
    obtain ⟨t, variant⟩ := t
    cases variant with
    | overdue call stamp =>
      obtain ⟨overdueAt, lastNudgedAt, count⟩ := stamp
      simp [evolve, applyEvent, TicketEvent.Spent, eq_comm, and_comm]
    | _ => simp [evolve, applyEvent, TicketEvent.Spent]
  | appointmentLapsed | served | noShowed | cancelled =>
    obtain ⟨t, variant⟩ := t
    cases variant with
    | waiting | called | overdue => cases marked
    | _ => simp [evolve, applyEvent, TicketEvent.Spent]
  | _ =>
    obtain ⟨t, variant⟩ := t
    cases variant <;>
      simp [evolve, applyEvent, TicketEvent.Spent, Ticket.state, TicketVariant.state]

/-! ### Marks over runs -/

theorem evolve_arrived {t next : Ticket} {e : TicketEvent} (textless : e.body.fields = none)
    (evolved : evolve (some t) e = some next)
    (arrives : t.checkedInAt ≠ none ∨ (e.type = .checkedIn ∧ t.state = .waiting)) :
    next.checkedInAt ≠ none := by
  obtain ⟨id, ticketId, occurredAt, recordedAt, body⟩ := e
  obtain ⟨t, variant⟩ := t
  cases body with
  | issued data => cases textless
  | checkedIn actor =>
    by_cases seen : t.checkedInAt = none
    · cases variant with
      | waiting =>
        simp [evolve, applyEvent, seen] at evolved
        simp [← evolved]
      | _ =>
        rcases arrives with arrived | ⟨_, waits⟩
        · exact absurd seen arrived
        · cases waits
    · cases variant <;>
        · simp [evolve, applyEvent, seen] at evolved
          simp [← evolved, seen]
  | rescheduled source target actor =>
    have arrived := arrives.resolve_right (fun other => by cases other.1)
    by_cases lane : t.lane = .reservation
    · cases variant <;>
        · simp [evolve, applyEvent, lane, Ticket.state, TicketVariant.state,
            TicketState.isTerminal] at evolved
          simpa [← evolved] using arrived
    · cases variant <;>
        · simp [evolve, applyEvent, lane] at evolved
          simpa [← evolved] using arrived
  | _ =>
    have arrived := arrives.resolve_right (fun other => by cases other.1)
    cases variant <;>
      · simp [evolve, applyEvent] at evolved
        simpa [← evolved] using arrived

section
variable {t q next : Ticket} {result : ApplyResult} {e : TicketEvent}

theorem Ticket.SameCore.trans {t t' t'' : Ticket} (first : t.SameCore t')
    (second : t'.SameCore t'') : t.SameCore t'' where
  fields := second.fields.trans first.fields
  id := second.id.trans first.id
  seq := second.seq.trans first.seq
  lane := second.lane.trans first.lane
  displaySeq := second.displaySeq.trans first.displaySeq
  issuedAt := second.issuedAt.trans first.issuedAt

/-- No later transition takes a mark away: a terminal ticket has none. -/
theorem TicketEvent.Marked.kept (marked : e.Marked t) (move : Move q result)
    (same : t.state = q.state) (evolved : evolve (some t) result.event = some next) :
    e.Marked next := by
  obtain ⟨_, evolved', core⟩ := evolve_textless t move.event_fields
  cases Option.some.inj (evolved'.symm.trans evolved)
  have open_ : t.state.isTerminal = false := by
    have active := move.source_active
    rw [← same] at active
    simpa [TicketState.isActive] using active
  obtain ⟨id, ticketId, occurredAt, recordedAt, body⟩ := e
  cases body with
  | issued data => exact Ticket.SameCore.trans marked core
  | appointmentLapsed | served | noShowed | cancelled => cases open_.symm.trans marked
  | checkedIn actor => exact evolve_arrived move.event_fields evolved (.inl marked)
  | rescheduled source target actor => exact core.lane.trans marked
  | _ => trivial

theorem Move.marked (move : Move q result) (same : t.outline = q.outline)
    (evolved : evolve (some t) result.event = some next) : result.event.Marked next := by
  have followed : next.outline = result.ticket.outline := by
    have outline := move.evolve_outline
    rw [SlotBooking.evolve_outline, Option.map_some, ← same, ← Option.map_some,
      ← SlotBooking.evolve_outline, evolved] at outline
    exact Option.some.inj outline
  have state : next.outline.state = result.ticket.outline.state := congrArg Ticket.state followed
  have lane : next.outline.lane = result.ticket.outline.lane :=
    congrArg (fun t : Ticket => t.lane) followed
  cases move with
  | markServed | markNoShow | cancel => exact congrArg TicketState.isTerminal state
  | lapseAppointment t time eventId result applied =>
    obtain ⟨appointmentAt, _, rfl⟩ := applyLapseAppointment_eq_some applied
    exact congrArg TicketState.isTerminal state
  | checkIn q time eventId actor =>
    have waits : t.outline.state = .waiting := congrArg Ticket.state same
    exact evolve_arrived rfl evolved (.inr ⟨rfl, waits⟩)
  | reschedule q active reserved target time eventId actor result applied =>
    obtain ⟨source, _, rfl⟩ := applyReschedule_eq_some applied
    exact lane.trans reserved
  | _ => trivial

end

/-! ### The log of a run -/

/-- The events which the use cases have recorded, in the order they did. -/
def DurableStore.eventLog (s : DurableStore) : List TicketEvent :=
  s.ticketEvents.map (fun r => r.payload.json)

theorem get_applyMany_eventsOf (snap : QueueSnapshot) (events : List TicketEvent) (id : TicketId) :
    (applyMany snap events).get id = evolveAll (snap.get id) (eventsOf id events) := by
  induction events generalizing snap with
  | nil => rfl
  | cons e events ih =>
    change (applyMany (applyEvent snap e) events).get id = _
    rw [ih (applyEvent snap e), get_applyEvent]
    by_cases own : e.ticketId = id
    · subst own
      have first : eventsOf e.ticketId (e :: events) = e :: eventsOf e.ticketId events :=
        List.filter_cons_of_pos (decide_eq_true rfl)
      rw [if_pos rfl, first]
      rfl
    · have passed : eventsOf id (e :: events) = eventsOf id events :=
        List.filter_cons_of_neg (by simpa using own)
      rw [if_neg (Ne.symm own), passed]

theorem DurableStore.Tidy.eventsOf_eventLog {s : DurableStore} (tidy : s.Tidy) (id : TicketId) :
    eventsOf id s.eventLog = (s.aggregate id).log := by
  rw [eventsOf, eventLog, List.filter_map]
  change _ = List.map _ (List.filter _ _)
  congr 1
  apply List.filter_congr
  intro r mem
  have column := congrArg EventRow.ticketId (tidy.columns r mem)
  rw [column]
  rfl

/-- Every event of the log has left its mark on the ticket which the log folds to. -/
def DurableStore.Marked (s : DurableStore) : Prop :=
  ∀ id, ∀ e ∈ (s.aggregate id).log, ∃ t, evolveAll none (s.aggregate id).log = some t ∧ e.Marked t

section
variable {u : Unicode} {interval : Nat} {s s' : DurableStore}

theorem Moved.marked {loaded : LoadedAggregate} {result : ApplyResult}
    (moved : Moved u interval s s' loaded result) (kept : s.Kept) (marked : s.Marked) :
    s'.Marked := by
  intro id e mem
  by_cases own : id = loaded.state.id
  · subst own
    rw [moved.aggregate kept, if_pos rfl] at mem ⊢
    have replayed := (load_outline kept.tidy (kept.outlined _) moved.read).1
    obtain ⟨t, folded, outline⟩ := Option.map_eq_some_iff.mp replayed
    obtain ⟨next, evolved, _⟩ := evolve_textless t moved.move.event_fields
    have state : t.outline.state = loaded.state.outline.state := congrArg Ticket.state outline
    refine ⟨next, ?_, ?_⟩
    · change evolveAll none ((s.aggregate loaded.state.id).log ++ [result.event]) = _
      rw [evolveAll_append, folded]
      exact evolved
    · rcases List.mem_append.mp mem with before | new
      · obtain ⟨t', folded', left⟩ := marked _ e before
        cases Option.some.inj (folded.symm.trans folded')
        exact left.kept moved.move state evolved
      · cases List.mem_singleton.mp new
        exact moved.move.marked outline evolved
  · rw [(moved.untouched kept own).aggregate] at mem ⊢
    exact marked id e mem

theorem Issued.marked {ports : Ports} {input : IssueTicketInput} {all : List Ticket}
    (issued : Issued u interval ports input s s' all) (kept : s.Kept) (marked : s.Marked) :
    s'.Marked := by
  intro id e mem
  by_cases own : id = ports.newTicketId
  · subst own
    rw [(issued.aggregate kept).2] at mem ⊢
    cases List.mem_singleton.mp mem
    exact ⟨_, evolve_issued none rfl, ⟨rfl, rfl, rfl, rfl, rfl, rfl⟩⟩
  · rw [(issued.untouched kept own).aggregate] at mem ⊢
    exact marked id e mem

theorem marked_steps (steps : Steps u interval s s') (kept : s.Kept) (marked : s.Marked) :
    s'.Marked :=
  (steps.invariant kept marked
    (fun _ _ _ _ _ keptBefore before issued => issued.marked keptBefore before)
    (fun _ _ _ _ keptBefore before moved => moved.marked keptBefore before)).2

end

/-- A second delivery of an event leaves the snapshot alone if and only if the event is spent
on what its ticket has become. -/
theorem redelivery_harmless_iff (u : Unicode) (interval : Nat) (calls : List (Ports × UseCase)) :
    let xs := (runCalls (Durable.repository u interval) calls .empty).eventLog
    ∀ e ∈ xs, applyEvent (replay xs) e = replay xs ↔
      ∀ t, (replay xs).get e.ticketId = some t → e.Spent t := by
  intro xs e mem
  have steps := @run_steps u interval .empty DurableStore.kept_empty calls
  have kept := steps.kept DurableStore.kept_empty
  have marked := marked_steps steps DurableStore.kept_empty (fun _ _ none => nomatch none)
  have log := kept.tidy.eventsOf_eventLog e.ticketId
  have own : e ∈ eventsOf e.ticketId xs := List.mem_filter.mpr ⟨mem, decide_eq_true rfl⟩
  obtain ⟨t, folded, left⟩ := marked e.ticketId e (log ▸ own)
  have stored : (replay xs).get e.ticketId = some t := by
    rw [replay, get_applyMany_eventsOf, log]
    exact folded
  rw [applyEvent_eq_self_iff stored, evolve_again_iff left, stored]
  simp

namespace Sample

def calledOnce : List (Ports × UseCase) :=
  [(ports 1, .issueTicket reservation), (ports 2, .callSpecific ⟨1⟩ .staff)]

def calledBack : List (Ports × UseCase) := calledOnce ++ [(ports 3, .recall ⟨1⟩ .staff)]

end Sample

theorem call_is_recorded : Sample.called.event ∈
    (runCalls (Durable.repository Sample.unicode 200) Sample.calledOnce .empty).eventLog := by
  decide

/-- After a recall, the late duplicate of the call calls the ticket again. -/
theorem late_call_applies_again :
    let xs := (runCalls (Durable.repository Sample.unicode 200) Sample.calledBack .empty).eventLog
    Sample.called.event ∈ xs ∧ applyEvent (replay xs) Sample.called.event ≠ replay xs := by
  intro xs
  have mem : Sample.called.event ∈ xs := by decide
  have before : ((replay xs).get ⟨1⟩).map Ticket.state = some .waiting := by decide
  have after : ((applyEvent (replay xs) Sample.called.event).get ⟨1⟩).map Ticket.state =
      some .called := by decide
  refine ⟨mem, fun same => ?_⟩
  rw [same, before] at after
  cases after

/-- Delivered twice in a row, the call is harmless. -/
theorem redelivery_harmless_iff_called :
    let xs := (runCalls (Durable.repository Sample.unicode 200) Sample.calledOnce .empty).eventLog
    applyEvent (replay xs) Sample.called.event = replay xs := by
  intro xs
  apply (redelivery_harmless_iff Sample.unicode 200 Sample.calledOnce _ call_is_recorded).mpr
  intro t stored
  have state : ((replay xs).get ⟨1⟩).map Ticket.state = some .called := by decide
  have called : t.state = .called := by
    have got := congrArg (Option.map Ticket.state) stored
    exact Option.some.inj (got.symm.trans state)
  intro waits
  cases called.symm.trans waits

end SlotBooking
