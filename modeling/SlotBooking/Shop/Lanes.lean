import SlotBooking.Domain.Calling
import SlotBooking.Library.Trace
import SlotBooking.Runs.Rows
import SlotBooking.Shop.Boundary

/-! The lane of a ticket and its appointment. The boundary takes the two fields of an issue
one by one and the use case stores them as they come; nothing later puts them apart or
together. -/
namespace SlotBooking

/-- Every row is laned in its payload and in its columns, and so is every ticket a load finds. -/
structure DurableStore.Laned (u : Unicode) (s : DurableStore) : Prop where
  rows : ∀ r ∈ s.tickets, r.payload.json.Laned
  columns : ∀ r ∈ s.tickets, (r.lane = some .reservation ↔ r.appointmentAt ≠ none)
  loads : ∀ id loaded, Durable.load u s id = .ok loaded → loaded.state.Laned

/-- An issue which starts a ticket asks for the reservation lane if and only if it brings an
appointment. -/
def LaneMatched (u : Unicode) (instants : InstantText) (s : DurableStore)
    (call : Ports × QueueAction) : Prop :=
  ∀ input, call.2.useCase instants = some (.issueTicket input) → Starts u call.1 input s →
    (input.lane = some .reservation ↔ input.appointmentAt ≠ none)

section
variable {u : Unicode} {instants : InstantText} {interval : Nat} {s s' : DurableStore}

theorem Ticket.laned_of_outline {t q : Ticket} (same : t.outline = q.outline) (laned : t.Laned) :
    q.Laned := by
  have lane : t.lane = q.lane := congrArg (fun t => t.lane) same
  have appointmentAt : t.appointmentAt = q.appointmentAt :=
    congrArg (fun t => t.appointmentAt) same
  rwa [Ticket.Laned, lane, appointmentAt] at laned

theorem Move.laned {t : Ticket} {result : ApplyResult} (move : Move t result) (laned : t.Laned) :
    result.ticket.Laned := by
  cases move with
  | lapseAppointment t time eventId result applied =>
    obtain ⟨appointmentAt, _, rfl⟩ := applyLapseAppointment_eq_some applied
    exact laned
  | reschedule t active lane target time eventId actor result applied =>
    obtain ⟨source, _, rfl⟩ := applyReschedule_eq_some applied
    exact iff_of_true lane (Option.some_ne_none target)
  | _ => exact laned

/-- The payloads decide for the columns and for the loads. -/
theorem laned_of_rows (kept : s.Kept) (columned : s.Columned)
    (rows : ∀ r ∈ s.tickets, r.payload.json.Laned) : s.Laned u where
  rows := rows
  columns := by
    intro r mem
    rw [(columned r mem).lane, (columned r mem).appointmentAt, Option.some_inj]
    exact rows r mem
  loads := by
    intro id loaded read
    obtain ⟨row, found, outline, _⟩ := kept.row_of_load read
    exact Ticket.laned_of_outline outline (rows row (Table.find_some found).1)

theorem Moved.laned {loaded : LoadedAggregate} {result : ApplyResult}
    (moved : Moved u interval s s' loaded result) (kept : s.Kept)
    (laned : ∀ r ∈ s.tickets, r.payload.json.Laned) : ∀ r ∈ s'.tickets, r.payload.json.Laned :=
  moved.payloads Ticket.laned_of_outline Move.laned kept laned

theorem Issued.laned_iff {ports : Ports} {input : IssueTicketInput} {all : List Ticket}
    (issued : Issued u interval ports input s s' all) (kept : s.Kept)
    (laned : ∀ r ∈ s.tickets, r.payload.json.Laned) :
    (∀ r ∈ s'.tickets, r.payload.json.Laned) ↔
      (input.lane = some .reservation ↔ input.appointmentAt ≠ none) := by
  have lane : input.lane.getD .walkIn = .reservation ↔ input.lane = some .reservation := by
    cases input.lane with
    | none => simp
    | some lane => simp
  rw [issued.tickets kept, ← lane]
  constructor
  · intro rows
    exact rows _ (List.mem_append_right _ List.mem_cons_self)
  · intro fits r mem
    rw [List.mem_append, List.mem_singleton] at mem
    rcases mem with mem | rfl
    · exact laned r mem
    · exact fits

theorem dispatch_laned_iff (kept : s.Kept) (laned : ∀ r ∈ s.tickets, r.payload.json.Laned)
    (call : Ports × QueueAction) :
    (∀ r ∈ (dispatched u instants s call).tickets, r.payload.json.Laned) ↔
      LaneMatched u instants s call := by
  by_cases issues : ∃ input, call.2.useCase instants = some (.issueTicket input)
  · obtain ⟨input, read⟩ := issues
    have only : LaneMatched u instants s call ↔ (Starts u call.1 input s →
        (input.lane = some .reservation ↔ input.appointmentAt ≠ none)) := by
      constructor
      · exact fun matched => matched input read
      · intro matched other same
        cases read.symm.trans same
        exact matched
    rw [only]
    by_cases starts : Starts u call.1 input s
    · obtain ⟨all, issued⟩ := dispatch_starts kept read starts
      rw [issued.laned_iff kept laned]
      exact ⟨fun fits _ => fits, fun fits => fits starts⟩
    · rw [dispatched, dispatch_unstarted kept read starts]
      exact iff_of_true laned (fun h => absurd h starts)
  · refine iff_of_true ?_ (fun input read => absurd ⟨input, read⟩ issues)
    apply dispatch_invariant (P := fun t => ∀ r ∈ t.tickets, r.payload.json.Laned) kept laned
    · exact fun _ _ _ _ keptBefore before moved => moved.laned keptBefore before
    · exact fun input _ _ read => absurd ⟨input, read⟩ issues

end

/-- Lane and appointment agree in every state of a run if and only if every issue which starts
a ticket brings both or none. -/
theorem lanes_agree_iff (u : Unicode) (instants : InstantText)
    (calls : List (Ports × QueueAction)) :
    (∀ n, (runDispatches u instants (calls.take n) .empty).Laned u) ↔
      Trace.Throughout (dispatched u instants) (LaneMatched u instants) calls .empty := by
  have reached : ∀ n, Steps u Durable.snapshotInterval .empty
      (runDispatches u instants (calls.take n) .empty) :=
    fun n => runDispatches_steps DurableStore.kept_empty (calls.take n)
  have payloads : (∀ n, (runDispatches u instants (calls.take n) .empty).Laned u) ↔
      Trace.Always (dispatched u instants) (fun s => ∀ r ∈ s.tickets, r.payload.json.Laned) calls
        .empty := by
    refine forall_congr' (fun n => ⟨DurableStore.Laned.rows, ?_⟩)
    exact laned_of_rows ((reached n).kept DurableStore.kept_empty)
      (columned_steps (reached n) DurableStore.kept_empty columned_empty)
  rw [payloads]
  apply Trace.always_iff_throughout (K := DurableStore.Kept)
  · exact fun s call kept => (dispatch_steps kept).kept kept
  · exact fun s call kept laned => dispatch_laned_iff kept laned call
  · exact DurableStore.kept_empty
  · simp [DurableStore.empty]

namespace Sample

/-- A reservation without an appointment, as the boundary lets it in. -/
def undated : Ports × QueueAction := (ports 1, .issueTicket handle none (some .reservation) none)

theorem undated_accepted : ∀ call ∈ [undated], Accepted unicode noInstants call.2 := by
  intro call mem
  rw [List.mem_singleton] at mem
  subst mem
  exact ⟨⟨handle.nameKana, handle.phoneLast4, none, some .reservation, none⟩, by rfl⟩

end Sample

/-- The boundary accepts a reservation without an appointment, and the shop stores it. -/
theorem reservation_without_appointment :
    (∀ call ∈ [Sample.undated], Accepted Sample.unicode Sample.noInstants call.2) ∧
      ¬ (runDispatches Sample.unicode Sample.noInstants [Sample.undated] .empty).Laned
        Sample.unicode := by
  refine ⟨Sample.undated_accepted, ?_⟩
  intro laned
  have columns : ∀ r ∈ (runDispatches Sample.unicode Sample.noInstants [Sample.undated]
      .empty).tickets, (r.lane = some .reservation ↔ r.appointmentAt ≠ none) := laned.columns
  revert columns
  decide

end SlotBooking
