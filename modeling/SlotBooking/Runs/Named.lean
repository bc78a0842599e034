import SlotBooking.Runs.Numbers
import SlotBooking.Runs.Texts

/-! Stores whose texts the codec gives back. Their reads need no decoding: every payload is
the ticket, and the handle columns are those of the payload. -/
namespace SlotBooking

/-- Every text of a ticket is the one it was issued with, and the codec gives it back; the
handle columns repeat the payload. -/
structure DurableStore.Named (u : Unicode) (s : DurableStore) : Prop where
  titled : ∀ id, ∃ f, Texts (fun g => g = f ∧ Canonical u g) (s.aggregate id)
  columns : ∀ r ∈ s.tickets, r.nameKana = some r.payload.json.nameKana ∧
    r.phoneLast4 = some r.payload.json.phoneLast4

section
variable {u : Unicode} {interval : Nat} {s s' : DurableStore}

theorem readable_canonical (f : CustomerFields) : Readable u (fun g => g = f ∧ Canonical u g) := by
  rintro g ⟨rfl, canonical⟩
  exact ⟨g, canonical, rfl, canonical⟩

theorem named_empty : DurableStore.empty.Named u where
  titled := fun id => ⟨.blank, texts_empty⟩
  columns := by simp [DurableStore.empty]

theorem Moved.named {loaded : LoadedAggregate} {result : ApplyResult}
    (moved : Moved u interval s s' loaded result) (kept : s.Kept) (named : s.Named u) :
    s'.Named u where
  titled := by
    intro id
    obtain ⟨f, texts⟩ := named.titled id
    exact ⟨f, moved.texts kept (readable_canonical f) texts⟩
  columns := by
    intro r mem
    have core := moved.move.sameCore
    rw [moved.store, DurableStore.mem_commit_tickets kept.tidy.ticketsKeyed] at mem
    rcases mem with ⟨mem, _⟩ | rfl
    · exact named.columns r mem
    · obtain ⟨row, found, _⟩ := kept.row_of_load moved.read
      have before := named.columns row (Table.find_some found).1
      obtain ⟨f, texts⟩ := named.titled loaded.state.id
      have latest : (s.aggregate loaded.state.id).latest =
          some (row.payload.json, row.revision) := by
        rw [DurableStore.aggregate, found]
        rfl
      have stored := (texts.latest _ _ latest).1
      have read := (load_texts kept.tidy (readable_canonical f) texts moved.read).1
      have same : result.ticket.toCustomerFields = row.payload.json.toCustomerFields :=
        core.fields.trans (read.trans stored.symm)
      have present : s.row (ticketColumns result.ticket (loaded.revision + [result.event].length)
          ⟨result.ticket⟩).id = some row := by
        change s.row result.ticket.id = some row
        rw [core.id]
        exact found
      rw [DurableStore.stored_present present]
      simp only [updateTicketRow, ticketColumns, before]
      rw [same]
      exact ⟨rfl, rfl⟩

theorem Issued.named {ports : Ports} {input : IssueTicketInput} {all : List Ticket}
    (issued : Issued u interval ports input s s' all) (kept : s.Kept) (named : s.Named u)
    (canonical : Canonical u ⟨input.handle, input.freeText⟩) : s'.Named u where
  titled := by
    intro id
    by_cases same : id = ports.newTicketId
    · subst same
      exact ⟨_, issued.texts kept ⟨rfl, canonical⟩⟩
    · obtain ⟨f, texts⟩ := named.titled id
      rw [(issued.untouched kept same).aggregate]
      exact ⟨f, texts⟩
  columns := by
    intro r mem
    rw [issued.store, DurableStore.mem_commit_tickets kept.tidy.ticketsKeyed] at mem
    rcases mem with ⟨mem, _⟩ | rfl
    · exact named.columns r mem
    · rw [DurableStore.stored_absent (issued.absent kept).2]
      exact ⟨rfl, rfl⟩

/-! ### Reads of a named store -/

theorem DurableStore.Named.decoded (named : s.Named u) (keyed : (s.tickets.map TicketRow.id).Nodup)
    {r : TicketRow} (mem : r ∈ s.tickets) :
    decodeTicketRowPayload u r.payload = some r.payload.json := by
  obtain ⟨f, texts⟩ := named.titled r.id
  have latest : (s.aggregate r.id).latest = some (r.payload.json, r.revision) := by
    rw [DurableStore.aggregate, DurableStore.row, Table.find_of_mem keyed mem]
    rfl
  have canonical := (texts.latest _ _ latest).2
  exact decodeTicketRowPayload_eq_some.mpr ⟨_, canonical, rfl⟩

theorem DurableStore.Named.listAll (named : s.Named u) (kept : s.Kept) (numbered : s.Numbered) :
    Durable.listAll u s = .ok (s.tickets.map (fun r => r.payload.json)) := by
  rw [Durable.listAll, orFail_eq_ok, numbered.sorted]
  exact Traversal.mapM_total (fun r mem => named.decoded kept.tidy.ticketsKeyed mem)

theorem holdsHandle_iff (named : s.Named u) (kept : s.Kept) {handle : CustomerHandle}
    {r : TicketRow} (mem : r ∈ s.tickets) : Durable.holdsHandle handle r = true ↔
      r.payload.json.state.isActive = true ∧ r.payload.json.handle = handle := by
  obtain ⟨name, phone⟩ := named.columns r mem
  obtain ⟨nameKana, phoneLast4⟩ := handle
  simp only [Durable.holdsHandle, name, phone, (kept.tidy.rows r mem).2, Ticket.handle,
    Option.some.injEq, Bool.and_eq_true, decide_eq_true_eq]
  constructor
  · rintro ⟨⟨rfl, rfl⟩, active⟩
    exact ⟨active, rfl⟩
  · rintro ⟨active, same⟩
    exact ⟨⟨congrArg CustomerHandle.nameKana same, congrArg CustomerHandle.phoneLast4 same⟩, active⟩

/-! ### Issues which go through -/

def FreshIssue (ports : Ports) (s : DurableStore) : Prop :=
  ∀ r ∈ s.ticketEvents, r.id ≠ ports.newTicketEventId 0 ∧ r.ticketId ≠ ports.newTicketId

theorem FreshIssue.admits {ports : Ports} (fresh : FreshIssue ports s) (kept : s.Kept)
    {input : IssueTicketInput} (valid : CustomerFields.Valid ⟨input.handle, input.freeText⟩)
    (all : List Ticket) : s.Admits 0 [(issueResult ports input s all).event] := by
  have unrecorded : s.log ports.newTicketId = [] := by
    apply List.filter_eq_nil_iff.mpr
    intro r mem same
    exact (fresh r mem).2 (of_decide_eq_true same)
  have unused : (issueResult ports input s all).event.id ∉ s.ticketEvents.map EventRow.id := by
    intro mem
    obtain ⟨r, inTable, same⟩ := List.mem_map.mp mem
    exact (fresh r inTable).1 same
  have texts : (issueResult ports input s all).event.Valid := by
    intro f hf
    cases hf
    exact valid
  have admits := kept.admits_fresh texts unused
  have length : (s.log (issueResult ports input s all).event.ticketId).length = 0 :=
    congrArg List.length unrecorded
  rwa [length] at admits

variable (u) in
/-- An issue which starts a ticket: nobody active has the handle, the rows decode, the texts
encode, and the ids are new. -/
structure Starts (ports : Ports) (input : IssueTicketInput) (s : DurableStore) : Prop where
  free : Durable.findActiveByHandle u s input.handle = .ok none
  listed : ∃ all, Durable.listAll u s = .ok all
  valid : CustomerFields.Valid ⟨input.handle, input.freeText⟩
  fresh : FreshIssue ports s

theorem Starts.admits {ports : Ports} {input : IssueTicketInput} (starts : Starts u ports input s)
    (kept : s.Kept) (all : List Ticket) : s.Admits 0 [(issueResult ports input s all).event] :=
  starts.fresh.admits kept starts.valid all

theorem Issued.starts {ports : Ports} {input : IssueTicketInput} {all : List Ticket}
    (issued : Issued u interval ports input s s' all) (kept : s.Kept) : Starts u ports input s where
  free := issued.free
  listed := ⟨all, issued.listed⟩
  valid := issued.accepts.valid
  fresh := by
    have apart := issued.accepts.admits.free
    have unrecorded := (issued.absent kept).1
    intro r mem
    refine ⟨fun same => apart r mem _ List.mem_cons_self (.inl same), fun same => ?_⟩
    have inLog : r ∈ s.log ports.newTicketId := List.mem_filter.mpr ⟨mem, decide_eq_true same⟩
    rw [unrecorded] at inLog
    cases inLog

end

end SlotBooking
