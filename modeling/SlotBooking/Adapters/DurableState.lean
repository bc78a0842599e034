import SlotBooking.Adapters.DurableWrites

/-! What the four tables say about one ticket, the shape every write leaves the tables in,
and what a load makes of them. -/
namespace SlotBooking

def EventRow.toOutbox (r : EventRow) : OutboxRow := ⟨r.id, r.ticketId, r.payload⟩

namespace DurableStore

/-- The events of one ticket in the order they were inserted. -/
def log (s : DurableStore) (id : TicketId) : List EventRow :=
  s.ticketEvents.filter (fun r => r.ticketId = id)

/-- The stored values of one ticket, before any decoding. -/
def aggregate (s : DurableStore) (id : TicketId) : EventSourcing.Aggregate Ticket TicketEvent :=
  { log := (s.log id).map (fun r => r.payload.json)
    latest := (s.row id).map (fun r => (r.payload.json, r.revision))
    snapshot := (s.snapshot id).map (fun r => (r.payload.json, r.revision)) }

/-- The shape of the tables: keys are unique, the events of each ticket are numbered from 1
in the order they were inserted, columns repeat payloads, and the outbox has every event. -/
structure Tidy (s : DurableStore) : Prop where
  ticketsKeyed : (s.tickets.map TicketRow.id).Nodup
  snapshotsKeyed : (s.aggregateSnapshots.map SnapshotRow.ticketId).Nodup
  eventsKeyed : (s.ticketEvents.map EventRow.id).Nodup
  outbox : s.outbox = s.ticketEvents.map EventRow.toOutbox
  columns : ∀ r ∈ s.ticketEvents, r = eventRow r.seq r.payload r.payload.json
  numbered : ∀ id, (s.log id).map EventRow.seq = List.range' 1 (s.log id).length
  rows : ∀ r ∈ s.tickets, r.payload.json.id = r.id ∧ r.state = r.payload.json.state

theorem tidy_empty : Tidy .empty where
  ticketsKeyed := List.nodup_nil
  snapshotsKeyed := List.nodup_nil
  eventsKeyed := List.nodup_nil
  outbox := rfl
  columns := by simp [empty]
  numbered := fun id => rfl
  rows := by simp [empty]

@[simp] theorem length_aggregate_log (s : DurableStore) (id : TicketId) :
    (s.aggregate id).log.length = (s.log id).length := List.length_map _

theorem revision_eq (s : DurableStore) (id : TicketId) :
    s.revision id = match (s.aggregate id).latest with
      | some p => p.2
      | none => 0 := by
  unfold revision aggregate
  cases s.row id <;> rfl

theorem Tidy.own {s : DurableStore} (tidy : s.Tidy) {id : TicketId} :
    ∀ e ∈ (s.aggregate id).log, e.ticketId = id := by
  intro e mem
  obtain ⟨r, hr, rfl⟩ := List.mem_map.mp mem
  obtain ⟨inTable, same⟩ := List.mem_filter.mp hr
  have column := congrArg EventRow.ticketId (tidy.columns r inTable)
  exact column.symm.trans (by simpa using same)

end DurableStore

/-! ### Reading the log back -/

theorem filter_beyond {rows : List EventRow} {a : Nat} (base : Nat)
    (numbered : rows.map EventRow.seq = List.range' a rows.length) :
    rows.filter (fun r => base < r.seq) = rows.drop (base + 1 - a) := by
  induction rows generalizing a with
  | nil => simp
  | cons r rows ih =>
    rw [List.map_cons, List.length_cons, List.range'_succ, List.cons.injEq] at numbered
    obtain ⟨first, rest⟩ := numbered
    rw [List.filter_cons, ih rest]
    by_cases beyond : base < r.seq
    · have here : base + 1 - a = 0 := by omega
      have there : base + 1 - (a + 1) = 0 := by omega
      simp [beyond, here, there]
    · have here : base + 1 - a = (base + 1 - (a + 1)) + 1 := by omega
      simp [beyond, here]

theorem DurableStore.Tidy.sorted_log {s : DurableStore} (tidy : s.Tidy) (id : TicketId) :
    (s.log id).insertionSort (fun a b => a.seq ≤ b.seq) = s.log id := by
  have ascending : ((s.log id).map EventRow.seq).Pairwise (· ≤ ·) := by
    rw [tidy.numbered id]
    exact List.pairwise_le_range'
  exact (List.pairwise_map.mp ascending).insertionSort_eq

theorem DurableStore.Tidy.eventsAfter_eq {s : DurableStore} (tidy : s.Tidy) (id : TicketId)
    (base : Nat) : s.eventsAfter id base = ((s.log id).drop base).map EventRow.payload := by
  have tail : s.ticketEvents.filter (fun r => r.ticketId = id && base < r.seq) =
      (s.log id).drop base := by
    have beyond := filter_beyond base (tidy.numbered id)
    rw [Nat.add_sub_cancel] at beyond
    rw [← beyond, DurableStore.log, List.filter_filter]
    exact List.filter_congr (fun r _ => Bool.and_comm _ _)
  have ascending : ((s.log id).map EventRow.seq).Pairwise (· ≤ ·) := by
    rw [tidy.numbered id]
    exact List.pairwise_le_range'
  have sorted : ((s.log id).drop base).Pairwise (fun a b => a.seq ≤ b.seq) :=
    (List.pairwise_map.mp ascending).drop
  rw [DurableStore.eventsAfter, tail, sorted.insertionSort_eq]

section
variable {u : Unicode}

def Decoded (u : Unicode) (payloads : List (Encoded TicketEvent)) (events : List TicketEvent) :
    Prop :=
  List.Forall₂ (fun p e => decodeEventRowPayload u p = some e) payloads events

theorem foldPayloads_eq_ok {acc acc' : QueueSnapshot} {payloads : List (Encoded TicketEvent)} :
    foldPayloads u acc payloads = .ok acc' ↔
      ∃ events, Decoded u payloads events ∧ acc' = applyMany acc events := by
  induction payloads generalizing acc with
  | nil =>
    constructor
    · intro h
      cases h
      exact ⟨[], .nil, rfl⟩
    · rintro ⟨events, decoded, rfl⟩
      cases decoded
      rfl
  | cons p payloads ih =>
    rw [foldPayloads]
    cases read : decodeEventRowPayload u p with
    | none =>
      refine ⟨nofun, ?_⟩
      rintro ⟨events, decoded, _⟩
      cases decoded with
      | cons here _ => rw [read] at here; cases here
    | some e =>
      simp only [ih]
      constructor
      · rintro ⟨events, decoded, rfl⟩
        exact ⟨e :: events, .cons read decoded, rfl⟩
      · rintro ⟨events, decoded, rfl⟩
        cases decoded with
        | cons here rest =>
          cases Option.some.inj (here.symm.trans read)
          exact ⟨_, rest, rfl⟩

theorem foldPayloads_error {acc : QueueSnapshot} {payloads : List (Encoded TicketEvent)}
    {e : QueueError} (failed : foldPayloads u acc payloads = .error e) :
    ∃ reason, e = .storage reason := by
  induction payloads generalizing acc with
  | nil => cases failed
  | cons p payloads ih =>
    rw [foldPayloads] at failed
    split at failed
    · cases failed
      exact ⟨_, rfl⟩
    · exact ih failed

theorem Decoded.own {payloads : List (Encoded TicketEvent)} {events : List TicketEvent}
    (decoded : Decoded u payloads events) {id : TicketId}
    (own : ∀ p ∈ payloads, p.json.ticketId = id) : ∀ e ∈ events, e.ticketId = id := by
  induction decoded with
  | nil => simp
  | cons here _ ih =>
    intro e mem
    rcases List.mem_cons.mp mem with rfl | mem
    · have same := congrArg TicketEvent.ticketId (decodeEventRowPayload_valid here).1
      simp only [TicketEvent.outline_ticketId] at same
      exact same.trans (own _ List.mem_cons_self)
    · exact ih (fun p hp => own p (List.mem_cons_of_mem _ hp)) e mem

theorem Decoded.outline {payloads : List (Encoded TicketEvent)} {events : List TicketEvent}
    (decoded : Decoded u payloads events) :
    events.map TicketEvent.outline = payloads.map (fun p => p.json.outline) := by
  induction decoded with
  | nil => rfl
  | cons here _ ih => rw [List.map_cons, List.map_cons, ih, (decodeEventRowPayload_valid here).1]

theorem Decoded.valid {payloads : List (Encoded TicketEvent)} {events : List TicketEvent}
    (decoded : Decoded u payloads events) : ∀ e ∈ events, e.Valid := by
  induction decoded with
  | nil => simp
  | cons here _ ih =>
    intro e mem
    rcases List.mem_cons.mp mem with rfl | mem
    · exact (decodeEventRowPayload_valid here).2
    · exact ih e mem

theorem foldTicket_decoded {base : QueueSnapshot} {id : TicketId} (revision : Nat)
    {payloads : List (Encoded TicketEvent)} {events : List TicketEvent}
    (own : ∀ p ∈ payloads, p.json.ticketId = id) (decoded : Decoded u payloads events) :
    foldTicket u base id revision payloads =
      found ((evolveAll (base.get id) events).map (fun t => (t, revision + payloads.length))) := by
  have folded : foldPayloads u base payloads = .ok (applyMany base events) :=
    foldPayloads_eq_ok.mpr ⟨events, decoded, rfl⟩
  simp only [foldTicket, folded, get_applyMany base (decoded.own own)]
  cases evolveAll (base.get id) events <;> rfl

theorem foldTicket_eq_ok {base : QueueSnapshot} {id : TicketId} {revision : Nat}
    {payloads : List (Encoded TicketEvent)} {loaded : LoadedAggregate}
    (own : ∀ p ∈ payloads, p.json.ticketId = id)
    (h : foldTicket u base id revision payloads = .ok loaded) :
    ∃ events, Decoded u payloads events ∧
      evolveAll (base.get id) events = some loaded.state ∧
      loaded.revision = revision + payloads.length := by
  cases folded : foldPayloads u base payloads with
  | error e =>
    rw [foldTicket, folded] at h
    cases h
  | ok acc =>
    obtain ⟨events, decoded, rfl⟩ := foldPayloads_eq_ok.mp folded
    rw [foldTicket_decoded revision own decoded] at h
    refine ⟨events, decoded, ?_⟩
    cases evolved : evolveAll (base.get id) events with
    | none => rw [evolved] at h; cases h
    | some next => rw [evolved] at h; cases h; exact ⟨rfl, rfl⟩

/-- A fold which leads to a ticket fails only where an event does not decode. -/
theorem foldTicket_present {base : QueueSnapshot} {id : TicketId} {revision : Nat}
    {payloads : List (Encoded TicketEvent)} {e : QueueError}
    (own : ∀ p ∈ payloads, p.json.ticketId = id)
    (leads : ∀ events, Decoded u payloads events → evolveAll (base.get id) events ≠ none)
    (failed : foldTicket u base id revision payloads = .error e) :
    ∃ reason, e = .storage reason := by
  cases folded : foldPayloads u base payloads with
  | error e' =>
    simp only [foldTicket, folded] at failed
    cases failed
    exact foldPayloads_error folded
  | ok acc =>
    obtain ⟨events, decoded, rfl⟩ := foldPayloads_eq_ok.mp folded
    rw [foldTicket_decoded revision own decoded] at failed
    cases evolved : evolveAll (base.get id) events with
    | none => exact absurd evolved (leads events decoded)
    | some next =>
      rw [evolved] at failed
      cases failed

/-! ### Loads -/

theorem DurableStore.Tidy.eventsAfter_aggregate {s : DurableStore} (tidy : s.Tidy) (id : TicketId)
    (base : Nat) :
    s.eventsAfter id base = ((s.aggregate id).log.drop base).map Encoded.mk := by
  rw [tidy.eventsAfter_eq, DurableStore.aggregate, ← List.map_drop, List.map_map]
  rfl

variable (u) in
def loadFrom (id : TicketId) (a : EventSourcing.Aggregate Ticket TicketEvent) :
    Except QueueError LoadedAggregate :=
  match a.snapshot with
  | some (p, m) =>
    match decodeTicketRowPayload u ⟨p⟩ with
    | none => .error (.storage "decode.snapshot")
    | some base =>
      foldTicket u (QueueSnapshot.empty.set id base) id m ((a.log.drop m).map Encoded.mk)
  | none =>
    if 0 < a.log.length then foldTicket u QueueSnapshot.empty id 0 (a.log.map Encoded.mk)
    else
      match a.latest with
      | none => .error .aggregateNotFound
      | some (p, revision) =>
        match decodeTicketRowPayload u ⟨p⟩ with
        | none => .error (.storage "decode.ticket")
        | some decoded => .ok { state := decoded, revision }

/-- A load reads nothing but the aggregate of its ticket. -/
theorem load_eq {s : DurableStore} (tidy : s.Tidy) (id : TicketId) :
    Durable.load u s id = loadFrom u id (s.aggregate id) := by
  have whole : (s.aggregate id).log.drop 0 = (s.aggregate id).log := List.drop_zero
  unfold Durable.load loadFrom
  simp only [tidy.eventsAfter_aggregate, whole, List.length_map]
  simp only [DurableStore.aggregate]
  cases s.snapshot id with
  | some snap => rfl
  | none => cases s.row id <;> rfl

inductive Loads (u : Unicode) (a : EventSourcing.Aggregate Ticket TicketEvent) :
    LoadedAggregate → Prop where
  | snapshot (p : Ticket) (m : Nat) (base : Ticket) (events : List TicketEvent) (next : Ticket)
      (taken : a.snapshot = some (p, m)) (read : decodeTicketRowPayload u ⟨p⟩ = some base)
      (decoded : Decoded u ((a.log.drop m).map Encoded.mk) events)
      (evolved : evolveAll (some base) events = some next) :
      Loads u a ⟨next, m + (a.log.drop m).length⟩
  | log (events : List TicketEvent) (next : Ticket) (untaken : a.snapshot = none)
      (recorded : a.log ≠ []) (decoded : Decoded u (a.log.map Encoded.mk) events)
      (evolved : evolveAll none events = some next) : Loads u a ⟨next, a.log.length⟩
  | row (p next : Ticket) (revision : Nat) (untaken : a.snapshot = none) (unrecorded : a.log = [])
      (latest : a.latest = some (p, revision)) (read : decodeTicketRowPayload u ⟨p⟩ = some next) :
      Loads u a ⟨next, revision⟩

theorem own_drop {id : TicketId} {events : List TicketEvent} (own : ∀ e ∈ events, e.ticketId = id)
    (base : Nat) : ∀ p ∈ (events.drop base).map Encoded.mk, p.json.ticketId = id := by
  intro p mem
  obtain ⟨e, he, rfl⟩ := List.mem_map.mp mem
  exact own e (List.mem_of_mem_drop he)

theorem loadFrom_sources {id : TicketId} {a : EventSourcing.Aggregate Ticket TicketEvent}
    {loaded : LoadedAggregate} (own : ∀ e ∈ a.log, e.ticketId = id)
    (h : loadFrom u id a = .ok loaded) : Loads u a loaded := by
  obtain ⟨next, revision⟩ := loaded
  unfold loadFrom at h
  split at h
  · rename_i p m taken
    split at h
    · cases h
    · rename_i base read
      obtain ⟨events, decoded, evolved, counted⟩ := foldTicket_eq_ok (own_drop own m) h
      rw [QueueSnapshot.get_set_self] at evolved
      rw [List.length_map] at counted
      cases counted
      exact .snapshot p m base events next taken read decoded evolved
  · rename_i untaken
    split at h
    · rename_i recorded
      obtain ⟨events, decoded, evolved, counted⟩ := foldTicket_eq_ok (own_drop own 0) h
      rw [List.length_map, Nat.zero_add] at counted
      cases counted
      exact .log events next untaken (List.length_pos_iff.mp recorded) decoded evolved
    · rename_i unrecorded
      have none := List.length_eq_zero_iff.mp (Nat.eq_zero_of_not_pos unrecorded)
      split at h
      · cases h
      · rename_i p r latest
        split at h
        · cases h
        · rename_i read
          cases h
          exact .row p next revision untaken none latest read

theorem load_sources {s : DurableStore} (tidy : s.Tidy) {id : TicketId} {loaded : LoadedAggregate}
    (h : Durable.load u s id = .ok loaded) : Loads u (s.aggregate id) loaded :=
  loadFrom_sources tidy.own (load_eq tidy id ▸ h)

/-- Whatever the texts, a load has the outline of the folded log, and its length. -/
theorem load_outline {s : DurableStore} (tidy : s.Tidy) {id : TicketId} {loaded : LoadedAggregate}
    (faithful : ((s.aggregate id).map Ticket.outline TicketEvent.outline).Faithful evolveOutline)
    (h : Durable.load u s id = .ok loaded) :
    (evolveAll none (s.aggregate id).log).map Ticket.outline = some loaded.state.outline ∧
      loaded.revision = (s.aggregate id).log.length ∧ loaded.state.toCustomerFields.Valid := by
  have valid_events : ∀ {payloads events}, Decoded u payloads events →
      ∀ e ∈ events, ∀ f, e.body.fields = some f → f.Valid := fun decoded => decoded.valid
  cases load_sources tidy h with
  | snapshot p m base events next taken read decoded evolved =>
    obtain ⟨outline, valid⟩ := decodeTicketRowPayload_valid read
    have view : ((s.aggregate id).map Ticket.outline TicketEvent.outline).snapshot =
        some (p.outline, m) := by
      rw [EventSourcing.Aggregate.map, taken]
      rfl
    have bound := (faithful.snapshot _ _ view).1
    have resumed := faithful.resume view
    have events_outline : events.map TicketEvent.outline =
        ((s.aggregate id).log.map TicketEvent.outline).drop m := by
      rw [decoded.outline, List.map_map, List.map_drop]
      rfl
    refine ⟨?_, ?_, evolveAll_fields (valid_events decoded) ?_ evolved⟩
    · rw [evolveAll_outline, Option.map_none]
      refine resumed.symm.trans ?_
      rw [EventSourcing.Aggregate.map, ← events_outline, ← outline,
        ← Option.map_some (f := Ticket.outline), ← evolveAll_outline, evolved, Option.map_some]
    · simp only [EventSourcing.Aggregate.map, List.length_map] at bound
      simp only [List.length_drop]
      omega
    · intro q hq
      cases hq
      exact valid
  | log events next untaken recorded decoded evolved =>
    have events_outline : events.map TicketEvent.outline =
        (s.aggregate id).log.map TicketEvent.outline := by
      rw [decoded.outline, List.map_map]
      rfl
    refine ⟨?_, rfl, evolveAll_fields (valid_events decoded) ?_ evolved⟩
    · rw [evolveAll_outline, ← events_outline, ← evolveAll_outline, evolved, Option.map_some]
    · intro q hq
      cases hq
  | row p next revision untaken unrecorded latest read =>
    have view := faithful.latest
    rw [EventSourcing.Aggregate.map, unrecorded, latest] at view
    cases view

/-- A ticket with a row is not missing: a load of it can only fail to decode. -/
theorem load_present {s : DurableStore} (tidy : s.Tidy) {id : TicketId} {row : TicketRow}
    {e : QueueError}
    (faithful : ((s.aggregate id).map Ticket.outline TicketEvent.outline).Faithful evolveOutline)
    (found : s.row id = some row) (failed : Durable.load u s id = .error e) :
    ∃ reason, e = .storage reason := by
  have latest := faithful.latest
  have stored : (s.aggregate id).latest = some (row.payload.json, row.revision) := by
    rw [DurableStore.aggregate, found]
    rfl
  have folded : EventSourcing.fold evolveOutline none
      ((s.aggregate id).log.map TicketEvent.outline) ≠ none := by
    intro none_
    simp only [EventSourcing.Aggregate.map, stored, none_] at latest
    cases latest
  rw [load_eq tidy] at failed
  unfold loadFrom at failed
  split at failed
  · rename_i p m taken
    split at failed
    · cases failed
      exact ⟨_, rfl⟩
    · rename_i base read
      refine foldTicket_present (own_drop tidy.own m) ?_ failed
      intro events _ evolved
      rw [QueueSnapshot.get_set_self] at evolved
      obtain ⟨t, here⟩ := evolveAll_some base events
      cases here.symm.trans evolved
  · split at failed
    · refine foldTicket_present (own_drop tidy.own 0) ?_ failed
      intro events decoded evolved
      have outlines : (s.aggregate id).log.map TicketEvent.outline =
          events.map TicketEvent.outline := by
        rw [decoded.outline, List.map_map]
        rfl
      apply folded
      rw [outlines, ← Option.map_none (f := Ticket.outline), ← evolveAll_outline]
      exact congrArg (Option.map Ticket.outline) evolved
    · rename_i unrecorded
      have empty := List.length_eq_zero_iff.mp (Nat.eq_zero_of_not_pos unrecorded)
      rw [empty] at folded
      exact absurd rfl folded

theorem load_id {s : DurableStore} (tidy : s.Tidy) {id : TicketId} {loaded : LoadedAggregate}
    (faithful : ((s.aggregate id).map Ticket.outline TicketEvent.outline).Faithful evolveOutline)
    (h : Durable.load u s id = .ok loaded) : loaded.state.id = id := by
  obtain ⟨t, evolved, same⟩ := Option.map_eq_some_iff.mp (load_outline tidy faithful h).1
  rw [← Ticket.outline_id, ← same, Ticket.outline_id]
  refine evolveAll_id tidy.own ?_ evolved
  intro p hp
  cases hp

end

end SlotBooking
