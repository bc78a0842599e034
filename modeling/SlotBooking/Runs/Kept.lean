import SlotBooking.Adapters.DurableCommit
import SlotBooking.Adapters.DurableListing
import SlotBooking.Application.Decision

/-! The invariant of every run of the use cases on the Durable Object repository, and the
two kinds of commit a run is made of: an issue, and one transition of one ticket. -/
namespace SlotBooking

section
variable (u : Unicode) (interval : Nat)

/-- The outlines of row, snapshot and log agree; the revision column counts the events; no
two active rows share a handle. -/
structure DurableStore.Kept (s : DurableStore) : Prop where
  tidy : s.Tidy
  revised : ∀ id, s.revision id = (s.log id).length
  outlined : ∀ id,
    ((s.aggregate id).map Ticket.outline TicketEvent.outline).Faithful evolveOutline
  unclashed : s.Unclashed

/-- One transition of a loaded ticket has been saved. -/
structure Moved (s s' : DurableStore) (loaded : LoadedAggregate) (result : ApplyResult) :
    Prop where
  read : Durable.load u s loaded.state.id = .ok loaded
  move : Move loaded.state result
  accepts : s.Accepts loaded.revision [result.event] result.ticket
  store : s' = s.commit interval loaded.state.id loaded.revision [result.event] result.ticket

/-- What an issue applies: the next number of the rows, and of the tickets listed. -/
def issueResult (ports : Ports) (input : IssueTicketInput) (s : DurableStore) (all : List Ticket) :
    ApplyResult :=
  applyIssue (input.args ports (nextDisplaySeq (.ofTickets all))
    (s.tickets.foldl (fun max r => Nat.max max r.seq) 0 + 1))

structure Issued (ports : Ports) (input : IssueTicketInput) (s s' : DurableStore)
    (all : List Ticket) : Prop where
  free : Durable.findActiveByHandle u s input.handle = .ok none
  listed : Durable.listAll u s = .ok all
  accepts : s.Accepts 0 [(issueResult ports input s all).event] (issueResult ports input s all).ticket
  store : s' = s.commit interval ports.newTicketId 0 [(issueResult ports input s all).event]
    (issueResult ports input s all).ticket

end

section
variable {u : Unicode} {interval : Nat}

theorem DurableStore.kept_empty : DurableStore.empty.Kept where
  tidy := tidy_empty
  revised := fun _ => rfl
  outlined := fun _ => EventSourcing.Aggregate.faithful_empty
  unclashed := by simp [Unclashed, empty]

namespace DurableStore.Kept

variable {s : DurableStore}

theorem row_of_load (kept : s.Kept) {id : TicketId} {loaded : LoadedAggregate}
    (read : Durable.load u s id = .ok loaded) :
    ∃ row, s.row id = some row ∧ row.payload.json.outline = loaded.state.outline ∧
      row.revision = loaded.revision := by
  obtain ⟨replayed, counted, _⟩ := load_outline kept.tidy (kept.outlined id) read
  have latest := (kept.outlined id).latest
  have folded : EventSourcing.fold evolveOutline none
      ((s.aggregate id).map Ticket.outline TicketEvent.outline).log =
        some loaded.state.outline := by
    rw [← replayed, evolveAll_outline]
    rfl
  rw [folded] at latest
  cases found : s.row id with
  | none =>
    simp [EventSourcing.Aggregate.map, DurableStore.aggregate, found] at latest
  | some row =>
    simp only [EventSourcing.Aggregate.map, DurableStore.aggregate, found, Option.map_some,
      Option.some.injEq, Prod.mk.injEq, List.length_map] at latest
    exact ⟨row, rfl, latest.1, latest.2.trans (by rw [counted, length_aggregate_log])⟩

theorem row_none (kept : s.Kept) {id : TicketId} (unrecorded : s.log id = []) :
    s.row id = none := by
  have latest := (kept.outlined id).latest
  simp only [EventSourcing.Aggregate.map, DurableStore.aggregate, unrecorded, List.map_nil,
    EventSourcing.fold_nil, Option.map_none, Option.map_eq_none_iff] at latest
  exact latest

/-- A loaded ticket which moves can be saved: its row was active before, and it keeps its
handle columns. -/
theorem accepts_move (kept : s.Kept) {loaded : LoadedAggregate} {result : ApplyResult}
    (read : Durable.load u s loaded.state.id = .ok loaded) (move : Move loaded.state result)
    (admits : s.Admits loaded.revision [result.event]) :
    s.Accepts loaded.revision [result.event] result.ticket where
  admits := admits
  valid := by
    rw [move.sameCore.fields]
    exact (load_outline kept.tidy (kept.outlined _) read).2.2
  clear := by
    rintro ⟨r, mem, clash⟩
    obtain ⟨row, found, outline, _⟩ := kept.row_of_load read
    obtain ⟨inTable, rowId⟩ := Table.find_some found
    have active : row.state.isActive := by
      have state : row.state = loaded.state.state := by
        rw [(kept.tidy.rows row inTable).2, ← Ticket.outline_state, outline, Ticket.outline_state]
      rw [state]
      exact move.source_active
    have stored : s.stored (ticketColumns result.ticket
        (loaded.revision + [result.event].length) ⟨result.ticket⟩) =
          updateTicketRow row (ticketColumns result.ticket
            (loaded.revision + [result.event].length) ⟨result.ticket⟩) := by
      refine stored_present ?_
      change s.row result.ticket.id = some row
      rw [move.sameCore.id]
      exact found
    rw [stored] at clash
    obtain ⟨different, rActive, _, name⟩ := clashesWith_iff.mp clash
    have clashed : clashesWith row r = true :=
      clashesWith_iff.mpr ⟨fun same => different (same.trans rowId |>.trans move.sameCore.id.symm),
        rActive, active, name⟩
    rw [kept.unclashed row inTable r mem] at clashed
    cases clashed

theorem accepts_issue (kept : s.Kept) {ports : Ports} {input : IssueTicketInput}
    {all : List Ticket} (free : Durable.findActiveByHandle u s input.handle = .ok none)
    (admits : s.Admits 0 [(issueResult ports input s all).event]) :
    s.Accepts 0 [(issueResult ports input s all).event] (issueResult ports input s all).ticket where
  admits := admits
  valid := admits.valid _ List.mem_cons_self _ rfl
  clear := by
    rintro ⟨r, mem, clash⟩
    have absent : s.row ports.newTicketId = none := kept.row_none (kept.tidy.log_of_admits admits)
    have fresh : s.stored (ticketColumns (issueResult ports input s all).ticket 1
        ⟨(issueResult ports input s all).ticket⟩) = _ := stored_absent absent
    obtain ⟨_, active, _, _, name, _, phone⟩ := clashesWith_iff.mp (fresh ▸ clash)
    have holds : Durable.holdsHandle input.handle r = true := by
      simp only [Durable.holdsHandle, active, name, phone, ticketColumns]
      simp [issueResult, applyIssue, IssueTicketInput.args]
    exact List.find?_eq_none.mp (findActiveByHandle_none.mp free) r mem holds

end DurableStore.Kept

theorem DurableStore.Kept.commit {s : DurableStore} (kept : s.Kept) {id : TicketId}
    {expected : Nat} {e : TicketEvent} {next : Ticket} (accepts : s.Accepts expected [e] next)
    (own : e.ticketId = id) (nextId : next.id = id) (current : expected = (s.log id).length)
    (followed : (evolve (evolveAll none (s.aggregate id).log) e).map Ticket.outline =
      some next.outline) : (s.commit interval id expected [e] next).Kept := by
  have owns : ∀ e' ∈ [e], e'.ticketId = id := by simpa using own
  refine ⟨kept.tidy.commit ⟨accepts, owns, nextId, fun _ => current⟩,
    revised_commit kept.tidy owns nextId kept.revised current, ?_,
    kept.unclashed.commit kept.tidy.ticketsKeyed accepts⟩
  apply forall_aggregate_commit (P := fun a =>
    (a.map Ticket.outline TicketEvent.outline).Faithful evolveOutline) kept.tidy owns nextId
    kept.outlined
  rw [EventSourcing.Aggregate.map_commit, current, ← length_aggregate_log,
    ← List.length_map (f := TicketEvent.outline)]
  apply (kept.outlined id).commit interval
  rw [← followed, evolve_outline, evolveAll_outline, EventSourcing.fold_append]
  rfl

theorem Moved.kept {s s' : DurableStore} {loaded : LoadedAggregate} {result : ApplyResult}
    (moved : Moved u interval s s' loaded result) (kept : s.Kept) : s'.Kept := by
  obtain ⟨read, move, accepts, rfl⟩ := moved
  obtain ⟨replayed, counted, _⟩ := load_outline kept.tidy (kept.outlined _) read
  refine kept.commit accepts move.event_ticketId move.sameCore.id
    (counted.trans (DurableStore.length_aggregate_log _ _)) ?_
  rw [evolve_outline, replayed, ← move.evolve_outline, evolve_outline, Option.map_some]

theorem Issued.kept {ports : Ports} {input : IssueTicketInput} {s s' : DurableStore}
    {all : List Ticket} (issued : Issued u interval ports input s s' all) (kept : s.Kept) :
    s'.Kept := by
  obtain ⟨free, listed, accepts, rfl⟩ := issued
  have unrecorded : s.log ports.newTicketId = [] := kept.tidy.log_of_admits accepts.admits
  refine kept.commit accepts rfl rfl (by rw [unrecorded]; rfl) ?_
  rw [evolve_issued _ rfl]
  rfl

end

end SlotBooking
