import SlotBooking.Adapters.DurableState

/-! A commit seen from the tickets: it is the commit of one aggregate, it leaves every other
aggregate alone, and it keeps the tables tidy. -/
namespace SlotBooking

/-! ### The rows of the event loop -/

@[simp] theorem eventRows_payload (seq : Nat) (events : List TicketEvent) :
    (eventRows seq events).map (fun r => r.payload.json) = events := by
  induction events generalizing seq with
  | nil => rfl
  | cons e events ih => simp [eventRows, eventRow, ih]

@[simp] theorem eventRows_id (seq : Nat) (events : List TicketEvent) :
    (eventRows seq events).map EventRow.id = events.map TicketEvent.id := by
  induction events generalizing seq with
  | nil => rfl
  | cons e events ih => simp [eventRows, eventRow, ih]

@[simp] theorem eventRows_seq (seq : Nat) (events : List TicketEvent) :
    (eventRows seq events).map EventRow.seq = List.range' (seq + 1) events.length := by
  induction events generalizing seq with
  | nil => rfl
  | cons e events ih => simp [eventRows, eventRow, ih, List.range'_succ]

@[simp] theorem length_eventRows (seq : Nat) (events : List TicketEvent) :
    (eventRows seq events).length = events.length := by
  rw [← List.length_map (f := EventRow.seq), eventRows_seq, List.length_range']

theorem mem_eventRows {seq : Nat} {events : List TicketEvent} {r : EventRow}
    (mem : r ∈ eventRows seq events) :
    r = eventRow r.seq r.payload r.payload.json ∧ r.payload.json ∈ events ∧
      seq < r.seq ∧ r.seq ≤ seq + events.length := by
  induction events generalizing seq with
  | nil => cases mem
  | cons e events ih =>
    rcases List.mem_cons.mp mem with rfl | mem
    · refine ⟨rfl, List.mem_cons_self, ?_, ?_⟩
      · exact Nat.lt_succ_self seq
      · simp only [eventRow, List.length_cons]
        omega
    · obtain ⟨columns, here, low, high⟩ := ih mem
      refine ⟨columns, List.mem_cons_of_mem e here, by omega, ?_⟩
      rw [List.length_cons]
      omega

theorem eventRows_ticketId {id : TicketId} {seq : Nat} {events : List TicketEvent}
    (own : ∀ e ∈ events, e.ticketId = id) {r : EventRow} (mem : r ∈ eventRows seq events) :
    r.ticketId = id := by
  obtain ⟨columns, here, _⟩ := mem_eventRows mem
  exact (congrArg EventRow.ticketId columns).trans (own _ here)

namespace DurableStore

theorem insertOutbox_fresh {s : DurableStore} {row : OutboxRow}
    (fresh : ∀ r ∈ s.outbox, r.id ≠ row.id) :
    insertOutbox row s = { s with outbox := s.outbox ++ [row] } := by
  refine if_neg (fun taken => ?_)
  obtain ⟨r, mem, same⟩ := List.any_eq_true.mp taken
  exact fresh r mem (of_decide_eq_true same)

theorem append_outbox {s : DurableStore} {seq : Nat} {events : List TicketEvent}
    (complete : s.outbox = s.ticketEvents.map EventRow.toOutbox) (admits : s.Admits seq events) :
    (s.append seq events).outbox = (s.append seq events).ticketEvents.map EventRow.toOutbox := by
  induction events generalizing seq s with
  | nil => exact complete
  | cons e events ih =>
    obtain ⟨_, free, tail⟩ := admits_cons.mp admits
    have fresh : ∀ r ∈ s.outbox, r.id ≠ (outboxRow ⟨e⟩ e).id := by
      intro r mem same
      rw [complete] at mem
      obtain ⟨row, inTable, rfl⟩ := List.mem_map.mp mem
      exact free row inTable (.inl same)
    have inserted := insertOutbox_fresh (s := { s with
      ticketEvents := s.ticketEvents ++ [eventRow (seq + 1) ⟨e⟩ e] }) fresh
    refine ih ?_ tail
    rw [inserted]
    simp only [complete, List.map_append, List.map_singleton]
    rfl

/-- What the callers of a write see to: the events and the row are about the ticket, and
numbering goes on where the log ends. -/
structure Fits (s : DurableStore) (id : TicketId) (expected : Nat) (events : List TicketEvent)
    (next : Ticket) : Prop where
  accepts : s.Accepts expected events next
  own : ∀ e ∈ events, e.ticketId = id
  nextId : next.id = id
  current : events ≠ [] → expected = (s.log id).length

section
variable {s : DurableStore} {interval : Nat} {id : TicketId} {expected : Nat}
  {events : List TicketEvent} {next : Ticket}

theorem commit_ticketEvents : (s.commit interval id expected events next).ticketEvents =
    s.ticketEvents ++ eventRows expected events := append_ticketEvents expected events s

theorem commit_tickets : (s.commit interval id expected events next).tickets =
    Table.put TicketRow.id updateTicketRow
      (ticketColumns next (expected + events.length) ⟨next⟩) s.tickets := by
  rw [commit, project, append_tickets]

theorem log_commit (own : ∀ e ∈ events, e.ticketId = id) (other : TicketId) :
    (s.commit interval id expected events next).log other =
      if other = id then s.log other ++ eventRows expected events else s.log other := by
  rw [log, commit_ticketEvents, List.filter_append]
  split
  · rename_i same
    congr 1
    refine List.filter_eq_self.mpr (fun r mem => ?_)
    simpa [same] using eventRows_ticketId own mem
  · rename_i different
    have none : (eventRows expected events).filter (fun r => r.ticketId = other) = [] := by
      refine List.filter_eq_nil_iff.mpr (fun r mem here => different ?_)
      exact (of_decide_eq_true here).symm.trans (eventRows_ticketId own mem)
    rw [none, List.append_nil]
    rfl

theorem keepsKey_updateTicketRow : Table.KeepsKey TicketRow.id updateTicketRow :=
  fun _ _ _ => rfl

theorem keepsKey_replace {α κ : Type} (key : α → κ) :
    Table.KeepsKey key (fun _ excluded => excluded) := fun _ _ _ => rfl

theorem row_commit (keyed : (s.tickets.map TicketRow.id).Nodup) (nextId : next.id = id)
    (other : TicketId) :
    (s.commit interval id expected events next).row other =
      if other = id then
        some (s.stored (ticketColumns next (expected + events.length) ⟨next⟩))
      else s.row other := by
  subst nextId
  rw [row, commit_tickets]
  split
  · rename_i same
    subst same
    exact Table.find_put_self keepsKey_updateTicketRow keyed
      (ticketColumns next (expected + events.length) ⟨next⟩)
  · rename_i different
    exact Table.find_put_ne keepsKey_updateTicketRow keyed different

theorem snapshot_commit (keyed : (s.aggregateSnapshots.map SnapshotRow.ticketId).Nodup)
    (other : TicketId) :
    (s.commit interval id expected events next).snapshot other =
      if other = id ∧ (expected + events.length) % interval = 0 then
        some ⟨id, expected + events.length, ⟨next⟩⟩
      else s.snapshot other := by
  rw [snapshot, commit, project, append_aggregateSnapshots]
  by_cases due : (expected + events.length) % interval = 0
  · simp only [due, if_true, and_true]
    split
    · rename_i same
      subst same
      refine (Table.find_put_self (keepsKey_replace _) keyed
        ⟨other, expected + events.length, ⟨next⟩⟩).trans (congrArg some ?_)
      unfold Table.upserted
      split <;> rfl
    · rename_i different
      exact Table.find_put_ne (keepsKey_replace _) keyed different
  · simp only [due, if_false, and_false]
    rfl

@[simp] theorem stored_payload (row : TicketRow) : (s.stored row).payload = row.payload := by
  unfold stored Table.upserted
  split <;> rfl

@[simp] theorem stored_revision (row : TicketRow) : (s.stored row).revision = row.revision := by
  unfold stored Table.upserted
  split <;> rfl

@[simp] theorem stored_state (row : TicketRow) : (s.stored row).state = row.state := by
  unfold stored Table.upserted
  split <;> rfl

@[simp] theorem stored_id (row : TicketRow) : (s.stored row).id = row.id :=
  Table.key_upserted keepsKey_updateTicketRow row s.tickets

theorem mem_commit_tickets (keyed : (s.tickets.map TicketRow.id).Nodup) {r : TicketRow} :
    r ∈ (s.commit interval id expected events next).tickets ↔
      (r ∈ s.tickets ∧ r.id ≠ next.id) ∨
        r = s.stored (ticketColumns next (expected + events.length) ⟨next⟩) := by
  rw [commit_tickets]
  exact Table.mem_put keyed

theorem aggregate_commit (ticketsKeyed : (s.tickets.map TicketRow.id).Nodup)
    (snapshotsKeyed : (s.aggregateSnapshots.map SnapshotRow.ticketId).Nodup)
    (own : ∀ e ∈ events, e.ticketId = id) (nextId : next.id = id) (other : TicketId) :
    (s.commit interval id expected events next).aggregate other =
      if other = id then (s.aggregate other).commit interval expected events next
      else s.aggregate other := by
  rw [aggregate, log_commit own, row_commit ticketsKeyed nextId, snapshot_commit snapshotsKeyed]
  split
  · rename_i same
    subst same
    simp only [true_and, List.map_append, eventRows_payload, Option.map_some, stored_payload,
      stored_revision, aggregate, EventSourcing.Aggregate.commit, ticketColumns]
    split <;> rfl
  · rename_i different
    simp only [different, false_and, if_false]
    rfl

theorem revision_commit (keyed : (s.tickets.map TicketRow.id).Nodup) (nextId : next.id = id)
    (other : TicketId) :
    (s.commit interval id expected events next).revision other =
      if other = id then expected + events.length else s.revision other := by
  rw [revision, row_commit keyed nextId]
  by_cases same : other = id
  · simp only [if_pos same, stored_revision, ticketColumns]
  · simp only [if_neg same, revision]

/-- What holds of every aggregate, and of the one committed to, holds of all after a commit. -/
theorem forall_aggregate_commit {P : EventSourcing.Aggregate Ticket TicketEvent → Prop}
    (tidy : s.Tidy) (own : ∀ e ∈ events, e.ticketId = id) (nextId : next.id = id)
    (before : ∀ other, P (s.aggregate other))
    (here : P ((s.aggregate id).commit interval expected events next)) (other : TicketId) :
    P ((s.commit interval id expected events next).aggregate other) := by
  rw [aggregate_commit tidy.ticketsKeyed tidy.snapshotsKeyed own nextId]
  by_cases same : other = id
  · rw [if_pos same, same]
    exact here
  · rw [if_neg same]
    exact before other

/-- A commit at the end of the log leaves a revision column which counts the events. -/
theorem revised_commit (tidy : s.Tidy) (own : ∀ e ∈ events, e.ticketId = id)
    (nextId : next.id = id) (revised : ∀ other, s.revision other = (s.log other).length)
    (current : expected = (s.log id).length) (other : TicketId) :
    (s.commit interval id expected events next).revision other =
      ((s.commit interval id expected events next).log other).length := by
  rw [revision_commit tidy.ticketsKeyed nextId, log_commit own]
  by_cases same : other = id
  · rw [if_pos same, if_pos same, List.length_append, length_eventRows, current, same]
  · rw [if_neg same, if_neg same]
    exact revised other

/-- No two active rows share a handle: the index sees to it at every write. -/
def Unclashed (s : DurableStore) : Prop :=
  ∀ r ∈ s.tickets, ∀ q ∈ s.tickets, clashesWith r q = false

theorem Unclashed.commit (unclashed : s.Unclashed) (keyed : (s.tickets.map TicketRow.id).Nodup)
    (accepts : s.Accepts expected events next) :
    (s.commit interval id expected events next).Unclashed := by
  have apart : ∀ q ∈ s.tickets,
      clashesWith (s.stored (ticketColumns next (expected + events.length) ⟨next⟩)) q = false := by
    intro q mem
    by_contra clash
    exact accepts.clear ⟨q, mem, by simpa using clash⟩
  intro r hr q hq
  rcases (mem_commit_tickets keyed).mp hr with ⟨hr, _⟩ | rfl
  · rcases (mem_commit_tickets keyed).mp hq with ⟨hq, _⟩ | rfl
    · exact unclashed r hr q hq
    · rw [clashesWith_comm]
      exact apart r hr
  · rcases (mem_commit_tickets keyed).mp hq with ⟨hq, _⟩ | rfl
    · exact apart q hq
    · simp [clashesWith]

theorem Tidy.commit (tidy : s.Tidy) (fits : s.Fits id expected events next) :
    (s.commit interval id expected events next).Tidy where
  ticketsKeyed := by
    rw [commit_tickets]
    exact Table.distinct_put keepsKey_updateTicketRow tidy.ticketsKeyed
  snapshotsKeyed := by
    rw [DurableStore.commit, project, append_aggregateSnapshots]
    split
    · exact Table.distinct_put (keepsKey_replace _) tidy.snapshotsKeyed
    · exact tidy.snapshotsKeyed
  eventsKeyed := by
    rw [commit_ticketEvents, List.map_append, List.nodup_append]
    refine ⟨tidy.eventsKeyed, ?_, ?_⟩
    · apply List.pairwise_map.mpr
      exact fits.accepts.admits.apart.imp (fun apart same => apart (.inl same))
    · intro a ha b hb same
      obtain ⟨r, hr, rfl⟩ := List.mem_map.mp ha
      obtain ⟨q, hq, rfl⟩ := List.mem_map.mp hb
      exact fits.accepts.admits.free r hr q hq (.inl same)
  outbox := append_outbox tidy.outbox fits.accepts.admits
  columns := by
    intro r mem
    rw [commit_ticketEvents, List.mem_append] at mem
    rcases mem with mem | mem
    · exact tidy.columns r mem
    · exact (mem_eventRows mem).1
  numbered := by
    intro other
    rw [log_commit fits.own]
    split
    · rename_i same
      subst same
      by_cases nothing : events = []
      · subst nothing
        simpa [eventRows] using tidy.numbered other
      · rw [List.map_append, tidy.numbered other, eventRows_seq, fits.current nothing,
          List.length_append, length_eventRows, Nat.add_comm _ 1, List.range'_append_1]
    · exact tidy.numbered other
  rows := by
    intro r mem
    rcases (mem_commit_tickets tidy.ticketsKeyed).mp mem with ⟨mem, _⟩ | rfl
    · exact tidy.rows r mem
    · rw [stored_payload, stored_id, stored_state]
      exact ⟨rfl, rfl⟩

theorem Tidy.log_of_admits (tidy : s.Tidy) {e : TicketEvent} {rest : List TicketEvent}
    (admits : s.Admits 0 (e :: rest)) : s.log e.ticketId = [] := by
  cases stored : s.log e.ticketId with
  | nil => rfl
  | cons r rows =>
    have numbered := tidy.numbered e.ticketId
    rw [stored, List.map_cons, List.length_cons, List.range'_succ, List.cons.injEq] at numbered
    have mem : r ∈ s.log e.ticketId := by rw [stored]; exact List.mem_cons_self
    obtain ⟨inTable, own⟩ := List.mem_filter.mp mem
    exact absurd (.inr ⟨of_decide_eq_true own, numbered.1⟩)
      (admits.free r inTable (eventRow 1 ⟨e⟩ e) List.mem_cons_self)

end

end DurableStore

end SlotBooking
