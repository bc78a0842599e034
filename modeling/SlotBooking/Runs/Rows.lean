import SlotBooking.Runs.Steps

/-! The rows of the ticket table over a run: a commit replaces one row in its place, an issue
appends one, and the columns of every row repeat its payload. -/
namespace SlotBooking

/-- Writing the payload over the row once more would change nothing. -/
def TicketRow.Columned (r : TicketRow) : Prop :=
  updateTicketRow r (ticketColumns r.payload.json r.revision r.payload) = r

def DurableStore.Columned (s : DurableStore) : Prop := ∀ r ∈ s.tickets, r.Columned

section
variable {u : Unicode} {interval : Nat} {s s' : DurableStore}

namespace TicketRow.Columned

variable {r : TicketRow}

theorem lane (columned : r.Columned) : r.lane = some r.payload.json.lane :=
  (congrArg TicketRow.lane columned).symm

theorem appointmentAt (columned : r.Columned) : r.appointmentAt = r.payload.json.appointmentAt :=
  (congrArg TicketRow.appointmentAt columned).symm

theorem calledAt (columned : r.Columned) :
    r.calledAt = r.payload.json.variant.call?.map CallStamp.calledAt :=
  (congrArg TicketRow.calledAt columned).symm

theorem lastNudgedAt (columned : r.Columned) :
    r.lastNudgedAt = r.payload.json.variant.overdue?.bind OverdueStamp.lastNudgedAt :=
  (congrArg TicketRow.lastNudgedAt columned).symm

theorem nudgeCount (columned : r.Columned) :
    r.nudgeCount = (r.payload.json.variant.overdue?.map OverdueStamp.nudgeCount).getD 0 :=
  (congrArg TicketRow.nudgeCount columned).symm

end TicketRow.Columned

theorem columned_ticketColumns (next : Ticket) (revision : Nat) :
    (ticketColumns next revision ⟨next⟩).Columned := rfl

theorem columned_updateTicketRow (old : TicketRow) (next : Ticket) (revision : Nat) :
    (updateTicketRow old (ticketColumns next revision ⟨next⟩)).Columned := rfl

theorem columned_empty : DurableStore.empty.Columned := by simp [DurableStore.Columned,
  DurableStore.empty]

/-! ### What a commit does to the table -/

/-- The row of the ticket is rewritten where it stands. -/
theorem Moved.rows {loaded : LoadedAggregate} {result : ApplyResult}
    (moved : Moved u interval s s' loaded result) (kept : s.Kept) :
    ∃ front row back, s.tickets = front ++ row :: back ∧
      s'.tickets = front ++ updateTicketRow row
        (ticketColumns result.ticket (loaded.revision + 1) ⟨result.ticket⟩) :: back ∧
      row.id = loaded.state.id ∧ row.payload.json.outline = loaded.state.outline := by
  obtain ⟨row, found, outline, _⟩ := kept.row_of_load moved.read
  have present : Table.find TicketRow.id
      (ticketColumns result.ticket (loaded.revision + [result.event].length) ⟨result.ticket⟩).id
        s.tickets = some row := by
    change s.row result.ticket.id = some row
    rw [moved.move.sameCore.id]
    exact found
  obtain ⟨front, back, before, after⟩ := Table.put_split kept.tidy.ticketsKeyed present
  refine ⟨front, row, back, before, ?_, (Table.find_some found).2, outline⟩
  rw [moved.store, DurableStore.commit_tickets]
  exact after

theorem Moved.columned {loaded : LoadedAggregate} {result : ApplyResult}
    (moved : Moved u interval s s' loaded result) (kept : s.Kept) (columned : s.Columned) :
    s'.Columned := by
  obtain ⟨front, row, back, before, after, _⟩ := moved.rows kept
  intro r mem
  rw [after, List.mem_append, List.mem_cons] at mem
  rcases mem with mem | rfl | mem
  · exact columned r (by rw [before]; exact List.mem_append_left _ mem)
  · exact columned_updateTicketRow row result.ticket _
  · exact columned r (by rw [before]; exact List.mem_append_right _ (List.mem_cons_of_mem _ mem))

theorem Issued.columned {ports : Ports} {input : IssueTicketInput} {all : List Ticket}
    (issued : Issued u interval ports input s s' all) (kept : s.Kept) (columned : s.Columned) :
    s'.Columned := by
  intro r mem
  rw [issued.tickets kept, List.mem_append, List.mem_singleton] at mem
  rcases mem with mem | rfl
  · exact columned r mem
  · exact columned_ticketColumns _ 1

theorem columned_steps (steps : Steps u interval s s') (kept : s.Kept) (columned : s.Columned) :
    s'.Columned :=
  (steps.invariant kept columned
    (fun _ _ _ _ _ keptBefore before issued => issued.columned keptBefore before)
    (fun _ _ _ _ keptBefore before moved => moved.columned keptBefore before)).2

/-! ### What every transition keeps of a ticket -/

section
variable {P : Ticket → Prop} (outlined : ∀ {t q : Ticket}, t.outline = q.outline → P t → P q)
  (keeps : ∀ {t : Ticket} {result : ApplyResult}, Move t result → P t → P result.ticket)
include outlined keeps

theorem Moved.payloads {loaded : LoadedAggregate} {result : ApplyResult}
    (moved : Moved u interval s s' loaded result) (kept : s.Kept)
    (payloads : ∀ r ∈ s.tickets, P r.payload.json) : ∀ r ∈ s'.tickets, P r.payload.json := by
  obtain ⟨front, row, back, before, after, _, outline⟩ := moved.rows kept
  rw [before] at payloads
  intro r mem
  rw [after, List.mem_append, List.mem_cons] at mem
  rcases mem with mem | rfl | mem
  · exact payloads r (List.mem_append_left _ mem)
  · have old : P row.payload.json := payloads row (by simp)
    exact keeps moved.move (outlined outline old)
  · exact payloads r (List.mem_append_right _ (List.mem_cons_of_mem _ mem))

theorem payloads_steps (issues : ∀ args, P (applyIssue args).ticket)
    (steps : Steps u interval s s') (kept : s.Kept)
    (payloads : ∀ r ∈ s.tickets, P r.payload.json) : ∀ r ∈ s'.tickets, P r.payload.json := by
  refine (steps.invariant (P := fun s => ∀ r ∈ s.tickets, P r.payload.json) kept payloads ?_ ?_).2
  · intro t t' ports input all keptBefore before issued r mem
    rw [issued.tickets keptBefore, List.mem_append, List.mem_singleton] at mem
    rcases mem with mem | rfl
    · exact before r mem
    · exact issues _
  · exact fun t t' loaded result keptBefore before moved =>
      moved.payloads outlined keeps keptBefore before

end

end

end SlotBooking
