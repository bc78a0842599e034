import SlotBooking.Domain.Occupancy
import SlotBooking.Runs.Redelivery
import SlotBooking.Runs.SameSlot

/-! The slots before and after a reschedule, counted over the listing or over the fold. -/
namespace SlotBooking

/-- The snapshot after a command: listed anew, or the one before with the new event folded in. -/
def Follows (u : Unicode) (s s' : DurableStore) (before after : QueueSnapshot) : Prop :=
  (∃ all, Durable.listAll u s' = .ok all ∧ after = .ofTickets all) ∨
    ∃ e, s'.eventLog = s.eventLog ++ [e] ∧ after = applyEvent before e

/-- The counts after a move from `source` against the counts before: the target is within its
capacity, the slots from `source` on count one less, and the others as before. -/
structure Recounted (input : RescheduleTicketInput) (source : Instant)
    (before after : QueueSnapshot) : Prop where
  entered : ∃ n : Nat, slotOccupancy after input.newSlot input.tz = some n ∧ n ≤ input.capacity
  left : ∀ slot tz span, intervalOf slot tz = some span → span.startAt = source →
    slotOccupancy before slot tz = (slotOccupancy after slot tz).map (fun n => n + 1)
  elsewhere : ∀ slot tz span, intervalOf slot tz = some span → span.startAt ≠ source →
    span.startAt ≠ input.newAppointmentAt → slotOccupancy after slot tz = slotOccupancy before slot tz

section
variable {u : Unicode} {interval : Nat} {s s' : DurableStore}

/-! ### The snapshot of a listing -/

theorem get_listed (tidy : s.Tidy) {all : List Ticket} (listed : Durable.listAll u s = .ok all)
    (id : TicketId) : (QueueSnapshot.ofTickets all).get id =
      (s.row id).bind (fun r => decodeTicketRowPayload u r.payload) := by
  have ids := listed_ids_nodup tidy listed
  have mapped := Traversal.mapM_eq_some_iff.mpr (listAll_eq_ok.mp listed)
  have found : ∀ t, (QueueSnapshot.ofTickets all).get id = some t ↔ t ∈ all ∧ t.id = id :=
    fun t => QueueSnapshot.get_ofTickets ids
  cases row : s.row id with
  | none =>
    apply Option.eq_none_iff_forall_ne_some.mpr
    intro t here
    obtain ⟨mem, own⟩ := (found t).mp here
    obtain ⟨r, inListing, read⟩ := Traversal.mem_of_mapM mapped mem
    have inTable := mem_listed inListing
    have rowId : r.id = id := by
      rw [← own, (decodeTicketRowPayload_core read).1, (tidy.rows r inTable).1]
    exact Table.find_none_iff.mp row (List.mem_map.mpr ⟨r, inTable, rowId⟩)
  | some r =>
    obtain ⟨inTable, rowId⟩ := Table.find_some row
    obtain ⟨t, mem, read⟩ := Traversal.mapM_of_mem mapped ((List.perm_insertionSort _ _).mem_iff.mpr inTable)
    have own : t.id = id := by
      rw [(decodeTicketRowPayload_core read).1, (tidy.rows r inTable).1, rowId]
    rw [Option.bind_some, read]
    exact (found t).mpr ⟨mem, own⟩

theorem keyed_listed (tidy : s.Tidy) {all : List Ticket} (listed : Durable.listAll u s = .ok all) :
    (QueueSnapshot.ofTickets all).Keyed :=
  QueueSnapshot.keyed_ofTickets (listed_ids_nodup tidy listed)

theorem listed_row (tidy : s.Tidy) {all : List Ticket} (listed : Durable.listAll u s = .ok all)
    {id : TicketId} {r : TicketRow} (row : s.row id = some r) :
    ∃ t, (QueueSnapshot.ofTickets all).get id = some t ∧ t.outline = r.payload.json.outline := by
  have inListing := (List.perm_insertionSort (fun a b : TicketRow => a.seq ≤ b.seq)
    s.tickets).mem_iff.mpr (Table.find_some row).1
  obtain ⟨t, _, read⟩ := Traversal.mapM_of_mem (Traversal.mapM_eq_some_iff.mpr (listAll_eq_ok.mp listed)) inListing
  refine ⟨t, ?_, (decodeTicketRowPayload_valid read).1⟩
  rw [get_listed tidy listed, row, Option.bind_some, read]

theorem occupies_of_outline {snap : QueueSnapshot} {id : TicketId} {t q : Ticket}
    (found : snap.get id = some t) (same : t.outline = q.outline) {startAt : Instant}
    (lane : q.lane = .reservation) (active : q.state.isActive)
    (booked : q.appointmentAt = some startAt) : snap.Occupies id startAt := by
  have sameLane : t.lane = q.lane := congrArg (fun t => t.lane) same
  have sameTime : t.appointmentAt = q.appointmentAt := congrArg (fun t => t.appointmentAt) same
  have sameState : t.outline.state = q.outline.state := congrArg Ticket.state same
  exact ⟨t, found, sameLane.trans lane, sameState.symm ▸ active, sameTime.trans booked⟩

/-! ### The reschedule -/

variable {ports : Ports} {input : RescheduleTicketInput} {loaded : LoadedAggregate}
  {result : ApplyResult} {all : List Ticket} {after : QueueSnapshot}

theorem Moved.payload (moved : Moved u interval s s' loaded result) (kept : s.Kept) :
    ∃ r, s'.row loaded.state.id = some r ∧ r.payload.json = result.ticket := by
  have latest := congrArg EventSourcing.Aggregate.latest (moved.aggregate kept loaded.state.id)
  rw [if_pos rfl] at latest
  obtain ⟨r, row, same⟩ := Option.map_eq_some_iff.mp latest
  exact ⟨r, row, congrArg Prod.fst same⟩

theorem Moved.eventLog (moved : Moved u interval s s' loaded result) :
    s'.eventLog = s.eventLog ++ [result.event] := by
  rw [DurableStore.eventLog, moved.store, DurableStore.commit_ticketEvents, List.map_append]
  rfl

/-- The moved ticket in the next snapshot, and all the others as they were. -/
theorem Moved.follows (moved : Moved u interval s s' loaded result) (kept : s.Kept)
    (listed : Durable.listAll u s = .ok all) (follows : Follows u s s' (.ofTickets all) after) :
    (∃ t, after.get loaded.state.id = some t ∧ t.outline = result.ticket.outline) ∧
      ∀ other, other ≠ loaded.state.id →
        after.get other = (QueueSnapshot.ofTickets all).get other := by
  rcases follows with ⟨all', listed', rfl⟩ | ⟨e, logged, rfl⟩
  · have tidy' := (moved.kept kept).tidy
    obtain ⟨r, row, payload⟩ := moved.payload kept
    refine ⟨payload ▸ listed_row tidy' listed' row, fun other different => ?_⟩
    rw [get_listed tidy' listed', get_listed kept.tidy listed,
      (moved.untouched kept different).row]
  · have same : e = result.event := by
      have logs := logged.symm.trans moved.eventLog
      exact List.singleton_inj.mp (List.append_cancel_left logs)
    subst same
    obtain ⟨row, found, outline, _⟩ := kept.row_of_load moved.read
    obtain ⟨q, stored, read⟩ := listed_row kept.tidy listed found
    constructor
    · rw [get_applyEvent, if_pos moved.move.event_ticketId.symm, moved.move.event_ticketId, stored]
      apply Option.map_eq_some_iff.mp
      rw [evolve_outline, Option.map_some, read, outline]
      exact (evolve_outline (some loaded.state) result.event).symm.trans moved.move.evolve_outline
    · intro other different
      rw [get_applyEvent, if_neg (moved.move.event_ticketId ▸ different)]

theorem Rescheduled.rebooked
    (done : Rescheduled (Durable.repository u interval) ports input s s' loaded result)
    (kept : s.Kept) (read : Durable.load u s input.ticketId = .ok loaded) {source : Instant}
    (booked : loaded.state.appointmentAt = some source) (listed : Durable.listAll u s = .ok all)
    (follows : Follows u s s' (.ofTickets all) after) :
    (QueueSnapshot.ofTickets all).Rebooked after loaded.state.id source input.newAppointmentAt := by
  have moved := done.moved kept read
  obtain ⟨⟨t, joined, target⟩, elsewhere⟩ := moved.follows kept listed follows
  obtain ⟨row, found, outline, _⟩ := kept.row_of_load moved.read
  obtain ⟨q, stored, same⟩ := listed_row kept.tidy listed found
  obtain ⟨_, _, rfl⟩ := applyReschedule_eq_some done.applied
  have active : loaded.state.variant.state.isActive = true := done.admitted.active
  exact ⟨keyed_listed kept.tidy listed,
    occupies_of_outline stored (same.trans outline) done.admitted.lane active booked,
    occupies_of_outline joined target done.admitted.lane active rfl, elsewhere⟩

theorem Rescheduled.recounted
    (done : Rescheduled (Durable.repository u interval) ports input s s' loaded result)
    (kept : s.Kept) (read : Durable.load u s input.ticketId = .ok loaded) {source : Instant}
    (booked : loaded.state.appointmentAt = some source) {span : SlotInterval}
    (spans : intervalOf input.newSlot input.tz = some span)
    (starts : span.startAt = input.newAppointmentAt)
    (listed : Durable.listAll u s = .ok all) (follows : Follows u s s' (.ofTickets all) after) :
    Recounted input source (.ofTickets all) after := by
  have rebooked := done.rebooked kept read booked listed follows
  have apart : source ≠ input.newAppointmentAt := by
    rintro rfl
    exact done.admitted.elsewhere _ booked rfl
  obtain ⟨all', occupancy, listed', counted, room⟩ := done.admitted.room
  cases listed.symm.trans listed'
  refine ⟨⟨occupancy + 1, ?_, by omega⟩,
    fun _ _ _ spans starts => rebooked.slotOccupancy_source apart spans starts,
    fun _ _ _ spans => rebooked.slotOccupancy_elsewhere spans⟩
  rw [rebooked.slotOccupancy_target spans starts, counted]
  rfl

end

/-- The count which leaves a ticket out is the count less that ticket; so a reschedule onto the
start of its slot never fills the slot beyond its capacity, and takes the ticket out of the slot
it leaves. -/
theorem occupancy_besides_self :
    (∀ snap : QueueSnapshot, snap.Keyed → ∀ slot tz id,
      ((∃ span, intervalOf slot tz = some span ∧ snap.Occupies id span.startAt) →
        slotOccupancy snap slot tz =
          (occupancyExcludingSelf snap id slot tz).map (fun n => n + 1)) ∧
      ((¬ ∃ span, intervalOf slot tz = some span ∧ snap.Occupies id span.startAt) →
        slotOccupancy snap slot tz = occupancyExcludingSelf snap id slot tz)) ∧
    (∀ u interval calls ports input t s',
      let repo := Durable.repository u interval
      let s := runCalls repo calls .empty
      rescheduleTicket repo ports input s = (.ok t, s') →
      ∀ loaded source span all after, repo.load s input.ticketId = .ok loaded →
        loaded.state.appointmentAt = some source → source ≠ input.newAppointmentAt →
        intervalOf input.newSlot input.tz = some span → span.startAt = input.newAppointmentAt →
        repo.listAll s = .ok all → Follows u s s' (.ofTickets all) after →
        Recounted input source (.ofTickets all) after) := by
  refine ⟨fun snap keyed => slotOccupancy_besides keyed, ?_⟩
  intro u interval calls ports input t s' repo s ran loaded source span all after read booked apart
    spans starts listed follows
  have kept := @kept_run u interval .empty DurableStore.kept_empty calls
  obtain ⟨loaded', source', reschedulable, _, done⟩ := rescheduleTicket_ok ran
  cases read.symm.trans reschedulable.read
  cases booked.symm.trans reschedulable.booked
  rcases done with ⟨same, _⟩ | ⟨result, done, _⟩
  · exact absurd same.symm apart
  · exact done.recounted kept read booked spans starts listed follows

namespace Sample

def bookedOnce : List (Ports × UseCase) := [(ports 1, .issueTicket reservation)]

def atEpoch : Ports := { ports 2 with nowInstant := fun _ => instant 0 }

/-- From 5 to the first slot of the day, which has one place. -/
def toFirstSlot : RescheduleTicketInput := { sameTime with newAppointmentAt := instant 0 }

def inFirstSlot : Ticket := { issued.ticket with appointmentAt := some (instant 0) }

def movedStore : DurableStore :=
  (rescheduleTicket (Durable.repository unicode 200) atEpoch toFirstSlot
    (runCalls (Durable.repository unicode 200) bookedOnce .empty)).2

end Sample

theorem occupancy_besides_self_moved :
    slotOccupancy (.ofTickets [Sample.inFirstSlot]) Sample.toFirstSlot.newSlot Sample.greenwich =
        (occupancyExcludingSelf (.ofTickets [Sample.inFirstSlot]) ⟨1⟩ Sample.toFirstSlot.newSlot
          Sample.greenwich).map (fun n => n + 1) ∧
      Recounted Sample.toFirstSlot (Sample.instant 5) (.ofTickets [Sample.issued.ticket])
        (.ofTickets [Sample.inFirstSlot]) := by
  obtain ⟨besides, recounts⟩ := occupancy_besides_self
  have listed : Durable.listAll Sample.unicode Sample.movedStore = .ok [Sample.inFirstSlot] := by
    decide
  have spans : intervalOf Sample.toFirstSlot.newSlot Sample.greenwich =
      some ⟨Sample.instant 0, ⟨30 * nsPerMinute, by decide⟩⟩ := by decide
  constructor
  · exact (besides _ (QueueSnapshot.keyed_ofTickets (by decide)) _ _ _).1
      ⟨_, spans, Sample.inFirstSlot, rfl, rfl, rfl, rfl⟩
  · exact recounts Sample.unicode 200 Sample.bookedOnce Sample.atEpoch Sample.toFirstSlot
      Sample.inFirstSlot Sample.movedStore (Prod.ext (by decide) rfl)
      ⟨Sample.issued.ticket, 1⟩ (Sample.instant 5) _ [Sample.issued.ticket] _
      (by decide) rfl (by decide) spans rfl
      (by decide) (.inl ⟨_, listed, rfl⟩)

end SlotBooking
