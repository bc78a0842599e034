import SlotBooking.Library.Selection
import SlotBooking.Adapters.DurableTexts
import SlotBooking.Runs.Outcomes

/-! What a load returns after a save, in any store: whatever the tables hold, and whatever
wrote them. -/
namespace SlotBooking

namespace DurableStore

/-- The payloads of one ticket with `base < seq ≤ bound`, by seq. -/
def eventsWithin (s : DurableStore) (id : TicketId) (base bound : Nat) :
    List (Encoded TicketEvent) :=
  (((s.ticketEvents.filter (fun r => r.ticketId = id && base < r.seq)).filter
    (fun r => r.seq ≤ bound)).insertionSort (fun a b => a.seq ≤ b.seq)).map EventRow.payload

/-- Where a load starts: from the snapshot, where there is one, or from nothing. -/
def source (u : Unicode) (s : DurableStore) (id : TicketId) : Option (QueueSnapshot × Nat) :=
  match s.snapshot id with
  | some snap => (decodeTicketRowPayload u snap.payload).map
      (fun base => (QueueSnapshot.empty.set id base, snap.revision))
  | none => some (.empty, 0)

/-- The legacy shape: nothing is stored of the ticket but its row. -/
def Bare (s : DurableStore) (id : TicketId) : Prop :=
  s.snapshot id = none ∧ s.eventsAfter id 0 = []

instance (s : DurableStore) (id : TicketId) : Decidable (s.Bare id) :=
  inferInstanceAs (Decidable (_ ∧ _))

end DurableStore

/-- One of the events is an issue, which is the only event with texts. -/
def Issues (events : List TicketEvent) : Prop := ∃ e ∈ events, e.body.fields ≠ none

/-- The texts of all events decode, and those which end up in the ticket decode to themselves. -/
structure Legible (u : Unicode) (events : List TicketEvent) (next : Ticket) : Prop where
  decodes : ∀ e ∈ events, ∀ f, e.body.fields = some f → ∃ g, decodeFields u f = some g
  canonical : Issues events → Canonical u next.toCustomerFields

/-- Events are stored beyond the revision of the row, and replaying the new ones before them
gives the ticket all the same. -/
def Overtakes (u : Unicode) (s : DurableStore) (id : TicketId) (revision : Nat)
    (events : List TicketEvent) (next : Ticket) : Prop :=
  ∃ start base acc, s.source u id = some (start, base) ∧
    foldPayloads u start (s.eventsWithin id base revision ++ events.map Encoded.mk ++
      s.eventsAfter id revision) = .ok acc ∧ acc.get id = some next

/-- What it takes for a save to be read back. -/
def ReadsBack (u : Unicode) (interval : Nat) (s : DurableStore) (id : TicketId) (revision : Nat)
    (events : List TicketEvent) (next : Ticket) : Prop :=
  if s.eventsAfter id revision = [] then
    if (revision + events.length) % interval = 0 then Canonical u next.toCustomerFields
    else Legible u events next ∧ (s.Bare id → revision = 0 ∧ Issues events)
  else (revision + events.length) % interval ≠ 0 ∧ Overtakes u s id revision events next

section
variable {u : Unicode} {interval : Nat} {s : DurableStore} {id : TicketId}

/-! ### The events after a save -/

theorem filter_above {rows : List EventRow} {base bound : Nat} (low : base ≤ bound) :
    (rows.filter (fun r => r.ticketId = id && base < r.seq)).filter (fun r => bound < r.seq) =
      rows.filter (fun r => r.ticketId = id && bound < r.seq) := by
  rw [List.filter_filter]
  apply List.filter_congr
  intro r _
  rw [Bool.eq_iff_iff]
  simp only [Bool.and_eq_true, decide_eq_true_eq]
  constructor
  · rintro ⟨above, same, _⟩
    exact ⟨same, above⟩
  · rintro ⟨same, above⟩
    exact ⟨above, same, by omega⟩

theorem DurableStore.eventsAfter_split {base bound : Nat} (low : base ≤ bound) :
    s.eventsAfter id base = s.eventsWithin id base bound ++ s.eventsAfter id bound := by
  rw [eventsAfter, Selection.insertionSort_split EventRow.seq bound, filter_above low, List.map_append]
  rfl

section
variable {revision : Nat} {events : List TicketEvent} {next : Ticket}

theorem DurableStore.Admits.unnumbered (admits : s.Admits revision events)
    (own : ∀ e ∈ events, e.ticketId = id) {r : EventRow} (mem : r ∈ s.ticketEvents)
    (same : r.ticketId = id) (above : revision < r.seq) : revision + events.length < r.seq := by
  by_contra within
  have taken : r.seq ∈ (eventRows revision events).map EventRow.seq := by
    rw [eventRows_seq, List.mem_range'_1]
    omega
  obtain ⟨q, fresh, number⟩ := List.mem_map.mp taken
  have owner := eventRows_ticketId own fresh
  exact admits.free r mem q fresh (.inr ⟨same.trans owner.symm, number.symm⟩)

theorem eventRows_ascending : (eventRows revision events).Pairwise (fun a b => a.seq ≤ b.seq) := by
  apply List.pairwise_map.mp
  rw [eventRows_seq]
  exact List.pairwise_le_range'

theorem DurableStore.eventsAfter_commit (admits : s.Admits revision events)
    (own : ∀ e ∈ events, e.ticketId = id) {base : Nat} (low : base ≤ revision) :
    (s.commit interval id revision events next).eventsAfter id base =
      s.eventsWithin id base revision ++ events.map Encoded.mk ++ s.eventsAfter id revision := by
  have fresh : (eventRows revision events).filter (fun r => r.ticketId = id && base < r.seq) =
      eventRows revision events := by
    apply List.filter_eq_self.mpr
    intro r mem
    have numbered := (mem_eventRows mem).2.2.1
    simp only [eventRows_ticketId own mem, Bool.and_eq_true, decide_eq_true_eq, true_and]
    omega
  have payloads : (eventRows revision events).map EventRow.payload = events.map Encoded.mk := by
    have json := congrArg (List.map Encoded.mk) (eventRows_payload revision events)
    rwa [List.map_map] at json
  rw [eventsAfter, commit_ticketEvents, List.filter_append, fresh,
    Selection.insertionSort_insert EventRow.seq eventRows_ascending
      (fun r mem => (mem_eventRows mem).2.2), filter_above low, List.map_append, List.map_append,
    payloads]
  · rfl
  · intro r mem above
    obtain ⟨inTable, here⟩ := List.mem_filter.mp mem
    simp only [Bool.and_eq_true, decide_eq_true_eq] at here
    exact admits.unnumbered own inTable here.1 above

theorem DurableStore.eventsAfter_commit_end (admits : s.Admits revision events)
    (own : ∀ e ∈ events, e.ticketId = id) :
    (s.commit interval id revision events next).eventsAfter id (revision + events.length) =
      s.eventsAfter id revision := by
  have fresh : (eventRows revision events).filter
      (fun r => r.ticketId = id && revision + events.length < r.seq) = [] := by
    apply List.filter_eq_nil_iff.mpr
    intro r mem above
    have numbered := (mem_eventRows mem).2.2.2
    simp only [Bool.and_eq_true, decide_eq_true_eq] at above
    omega
  rw [eventsAfter, commit_ticketEvents, List.filter_append, fresh, List.append_nil, eventsAfter]
  congr 2
  apply List.filter_congr
  intro r mem
  rw [Bool.eq_iff_iff]
  simp only [Bool.and_eq_true, decide_eq_true_eq]
  constructor
  · rintro ⟨same, above⟩
    exact ⟨same, by omega⟩
  · rintro ⟨same, above⟩
    exact ⟨same, admits.unnumbered own mem same above⟩

theorem DurableStore.snapshot_commit_self :
    (s.commit interval id revision events next).snapshot id =
      if (revision + events.length) % interval = 0 then
        some ⟨id, revision + events.length, ⟨next⟩⟩ else s.snapshot id := by
  rw [snapshot, commit, project, append_aggregateSnapshots]
  split
  · exact Table.find_put_replaced (⟨id, revision + events.length, ⟨next⟩⟩ : SnapshotRow) _
  · rfl

end

/-! ### Folding over decoded payloads -/

theorem foldPayloads_append (acc : QueueSnapshot) (front back : List (Encoded TicketEvent)) :
    foldPayloads u acc (front ++ back) =
      match foldPayloads u acc front with
      | .error e => .error e
      | .ok mid => foldPayloads u mid back := by
  induction front generalizing acc with
  | nil => rfl
  | cons payload front ih =>
    rw [List.cons_append, foldPayloads, foldPayloads]
    cases decodeEventRowPayload u payload with
    | none => rfl
    | some e => exact ih (applyEvent acc e)

theorem foldTicket_ok_iff {start : QueueSnapshot} {base : Nat}
    {payloads : List (Encoded TicketEvent)} {t : Ticket} {revision : Nat} :
    foldTicket u start id base payloads = .ok ⟨t, revision⟩ ↔
      (∃ acc, foldPayloads u start payloads = .ok acc ∧ acc.get id = some t) ∧
        revision = base + payloads.length := by
  unfold foldTicket
  cases foldPayloads u start payloads with
  | error e => simp
  | ok acc =>
    cases found : acc.get id with
    | none => simp [found]
    | some next => simp [found, eq_comm]

theorem evolve_read {p p' next : Ticket} {e : TicketEvent} (textless : e.body.fields = none)
    (read : decodeTicketRowPayload u ⟨p⟩ = some p') (evolved : evolve (some p) e = some next) :
    ∃ next', evolve (some p') e = some next' ∧ decodeTicketRowPayload u ⟨next⟩ = some next' := by
  obtain ⟨f, decoded, rfl⟩ := decodeTicketRowPayload_eq_some.mp read
  obtain ⟨t, left, same⟩ := evolve_textless p textless
  cases Option.some.inj (left.symm.trans evolved)
  refine ⟨{ next with toCustomerFields := f }, ?_, decodeTicketRowPayload_eq_some.mpr ⟨f, ?_, rfl⟩⟩
  · rw [evolve_texts p f textless, evolved]
    rfl
  · exact same.fields ▸ decoded

theorem evolveAll_read {p p' next : Ticket} {events : List TicketEvent}
    (textless : ∀ e ∈ events, e.body.fields = none)
    (read : decodeTicketRowPayload u ⟨p⟩ = some p')
    (evolved : evolveAll (some p) events = some next) :
    ∃ next', evolveAll (some p') events = some next' ∧
      decodeTicketRowPayload u ⟨next⟩ = some next' := by
  induction events generalizing p p' with
  | nil =>
    cases evolved
    exact ⟨p', rfl, read⟩
  | cons e events ih =>
    obtain ⟨here, later⟩ := List.forall_mem_cons.mp textless
    obtain ⟨t, left, _⟩ := evolve_textless p here
    obtain ⟨t', left', again⟩ := evolve_read here read left
    rw [evolveAll, EventSourcing.fold_cons, left] at evolved
    rw [evolveAll, EventSourcing.fold_cons, left']
    exact ih later again evolved

theorem evolve_issued_read {e e' : TicketEvent} {data : IssuedData} (body : e.body = .issued data)
    (read : decodeEventRowPayload u ⟨e⟩ = some e') (prior : Option Ticket) :
    ∃ t, evolve prior e' = some t ∧
      decodeTicketRowPayload u ⟨issuedTicket e.ticketId e.occurredAt data⟩ = some t := by
  rw [decodeEventRowPayload_issued body] at read
  obtain ⟨f, decoded, rfl⟩ := Option.map_eq_some_iff.mp read
  have evolved := @evolve_issued prior
    { e with body := .issued { data with toCustomerFields := f } } _ rfl
  exact ⟨_, evolved, decodeTicketRowPayload_eq_some.mpr ⟨f, decoded, rfl⟩⟩

theorem decodes_iff {e : TicketEvent} : (∃ e', decodeEventRowPayload u ⟨e⟩ = some e') ↔
    ∀ f, e.body.fields = some f → ∃ g, decodeFields u f = some g := by
  rcases fields_cases e with textless | ⟨data, body⟩
  · simp [decodeEventRowPayload_textless textless, textless]
  · rw [decodeEventRowPayload_issued body, body]
    simp [EventBody.fields]

theorem decoded_iff {events : List TicketEvent} :
    (∃ events', Decoded u (events.map Encoded.mk) events') ↔
      ∀ e ∈ events, ∀ f, e.body.fields = some f → ∃ g, decodeFields u f = some g := by
  induction events with
  | nil => exact ⟨fun _ => by simp, fun _ => ⟨[], .nil⟩⟩
  | cons e events ih =>
    rw [List.forall_mem_cons, ← ih, ← decodes_iff]
    constructor
    · rintro ⟨_, decoded⟩
      cases decoded with
      | cons here rest => exact ⟨⟨_, here⟩, _, rest⟩
    · rintro ⟨⟨e', here⟩, events', rest⟩
      exact ⟨e' :: events', .cons here rest⟩

theorem decoded_textless {events events' : List TicketEvent}
    (textless : ∀ e ∈ events, e.body.fields = none)
    (decoded : Decoded u (events.map Encoded.mk) events') : events' = events := by
  induction events generalizing events' with
  | nil =>
    cases decoded
    rfl
  | cons e events ih =>
    obtain ⟨first, later⟩ := List.forall_mem_cons.mp textless
    cases decoded with
    | cons here rest =>
      rw [decodeEventRowPayload_textless first] at here
      rw [ih later rest, Option.some.inj here]

theorem textless_of_not_issues {events : List TicketEvent} (issues : ¬ Issues events) :
    ∀ e ∈ events, e.body.fields = none := by
  intro e mem
  by_contra issue
  exact issues ⟨e, mem, issue⟩

/-- Where the events issue the ticket, what was there before is forgotten, and the ticket comes
out with the texts of the last issue, read back. -/
theorem evolveAll_issued_read {prior : Option Ticket} {next : Ticket}
    {events events' : List TicketEvent} (issues : Issues events)
    (decoded : Decoded u (events.map Encoded.mk) events')
    (evolved : evolveAll prior events = some next) (prior' : Option Ticket) :
    ∃ next', evolveAll prior' events' = some next' ∧
      decodeTicketRowPayload u ⟨next⟩ = some next' := by
  induction events generalizing prior prior' events' with
  | nil =>
    obtain ⟨e, mem, _⟩ := issues
    cases mem
  | cons e events ih =>
    cases decoded with
    | @cons _ e' _ events' here rest =>
      by_cases later : Issues events
      · exact ih later rest evolved (evolve prior' e')
      · have textless := textless_of_not_issues later
        cases decoded_textless textless rest
        rcases fields_cases e with none | ⟨data, body⟩
        · obtain ⟨q, mem, issue⟩ := issues
          rcases List.mem_cons.mp mem with rfl | mem
          · exact absurd none issue
          · exact absurd (textless q mem) issue
        · obtain ⟨t', again, read⟩ := evolve_issued_read body here prior'
          rw [evolveAll, EventSourcing.fold_cons, evolve_issued prior body] at evolved
          rw [evolveAll, EventSourcing.fold_cons, again]
          exact evolveAll_read textless read evolved

theorem canonical_iff {t : Ticket} :
    decodeTicketRowPayload u ⟨t⟩ = some t ↔ Canonical u t.toCustomerFields := by
  constructor
  · intro read
    obtain ⟨f, decoded, same⟩ := decodeTicketRowPayload_eq_some.mp read
    rw [Canonical, decoded]
    exact congrArg (fun t => some t.toCustomerFields) same.symm
  · exact fun canonical => decodeTicketRowPayload_eq_some.mpr ⟨_, canonical, rfl⟩

/-- The new events, read back, lead from the ticket to what they led to. -/
theorem reread_iff {t next : Ticket} {events : List TicketEvent}
    (evolved : evolveAll (some t) events = some next) :
    (∃ events', Decoded u (events.map Encoded.mk) events' ∧
      evolveAll (some t) events' = some next) ↔ Legible u events next := by
  constructor
  · rintro ⟨events', decoded, again⟩
    refine ⟨decoded_iff.mp ⟨events', decoded⟩, fun issues => canonical_iff.mp ?_⟩
    obtain ⟨next', reread, read⟩ := evolveAll_issued_read issues decoded evolved (some t)
    rw [read, ← reread, again]
  · rintro ⟨decodes, canonical⟩
    obtain ⟨events', decoded⟩ := decoded_iff.mpr decodes
    refine ⟨events', decoded, ?_⟩
    by_cases issues : Issues events
    · obtain ⟨next', reread, read⟩ := evolveAll_issued_read issues decoded evolved (some t)
      rw [reread, ← read, canonical_iff.mpr (canonical issues)]
    · rw [decoded_textless (textless_of_not_issues issues) decoded, evolved]

/-- From nothing, they lead there only where they issue the ticket anew. -/
theorem reread_none_iff {t next : Ticket} {events : List TicketEvent}
    (evolved : evolveAll (some t) events = some next) :
    (∃ events', Decoded u (events.map Encoded.mk) events' ∧
      evolveAll none events' = some next) ↔ Issues events ∧ Legible u events next := by
  constructor
  · rintro ⟨events', decoded, again⟩
    have issues : Issues events := by
      by_contra issues
      have textless := textless_of_not_issues issues
      cases decoded_textless textless decoded
      rw [evolveAll_none textless] at again
      cases again
    exact ⟨issues, (reread_iff evolved).mp ⟨events', decoded, evolveAll_restart again (some t)⟩⟩
  · rintro ⟨issues, decodes, canonical⟩
    obtain ⟨events', decoded⟩ := decoded_iff.mpr decodes
    obtain ⟨next', reread, read⟩ := evolveAll_issued_read issues decoded evolved none
    refine ⟨events', decoded, ?_⟩
    rw [reread, ← read, canonical_iff.mpr (canonical issues)]

/-! ### Loads -/

theorem load_of_source {start : QueueSnapshot} {base : Nat}
    (source : s.source u id = some (start, base)) (stored : ¬ s.Bare id) :
    Durable.load u s id = foldTicket u start id base (s.eventsAfter id base) := by
  unfold DurableStore.source at source
  unfold Durable.load
  cases taken : s.snapshot id with
  | some snap =>
    rw [taken] at source
    obtain ⟨t, read, same⟩ := Option.map_eq_some_iff.mp source
    cases same
    simp only [read]
  | none =>
    rw [taken] at source
    cases source
    have some : 0 < (s.eventsAfter id 0).length := by
      apply List.length_pos_iff.mpr
      exact fun empty => stored ⟨taken, empty⟩
    simp only [if_pos some]

theorem source_of_load {t : Ticket} {revision : Nat}
    (read : Durable.load u s id = .ok ⟨t, revision⟩) :
    ∃ start base, s.source u id = some (start, base) ∧ base ≤ revision ∧
      ((¬ s.Bare id ∧ foldTicket u start id base (s.eventsAfter id base) = .ok ⟨t, revision⟩) ∨
        (s.Bare id ∧ start = .empty ∧ base = 0)) := by
  by_cases bare : s.Bare id
  · refine ⟨.empty, 0, ?_, Nat.zero_le _, .inr ⟨bare, rfl, rfl⟩⟩
    rw [DurableStore.source, bare.1]
  · cases source : s.source u id with
    | none =>
      unfold DurableStore.source at source
      unfold Durable.load at read
      cases taken : s.snapshot id with
      | none => simp [taken] at source
      | some snap =>
        simp only [taken, Option.map_eq_none_iff] at source
        simp [taken, source] at read
    | some p =>
      rw [load_of_source source bare] at read
      have counted := (foldTicket_ok_iff.mp read).2
      exact ⟨p.1, p.2, rfl, by omega, .inl ⟨bare, read⟩⟩

section
variable {revision : Nat} {events : List TicketEvent} {next : Ticket}

theorem load_commit_snapshot (admits : s.Admits revision events)
    (own : ∀ e ∈ events, e.ticketId = id) (due : (revision + events.length) % interval = 0) :
    Durable.load u (s.commit interval id revision events next) id =
        .ok ⟨next, revision + events.length⟩ ↔
      s.eventsAfter id revision = [] ∧ Canonical u next.toCustomerFields := by
  have taken := @DurableStore.snapshot_commit_self interval s id revision events next
  rw [if_pos due] at taken
  unfold Durable.load
  simp only [taken]
  rw [DurableStore.eventsAfter_commit_end admits own, ← canonical_iff]
  cases read : decodeTicketRowPayload u ⟨next⟩ with
  | none => simp
  | some base =>
    simp only
    rw [foldTicket_ok_iff]
    constructor
    · rintro ⟨⟨acc, folded, found⟩, counted⟩
      have nothing : s.eventsAfter id revision = [] := by
        apply List.length_eq_zero_iff.mp
        omega
      rw [nothing] at folded
      cases folded
      rw [QueueSnapshot.get_set_self] at found
      exact ⟨nothing, found⟩
    · rintro ⟨nothing, same⟩
      rw [nothing]
      exact ⟨⟨_, rfl, (QueueSnapshot.get_set_self _ _ _).trans same⟩, rfl⟩

/-- Between snapshots a load replays the stored events and the new ones, in their order. -/
theorem load_commit_events {start : QueueSnapshot} {base : Nat} (admits : s.Admits revision events)
    (own : ∀ e ∈ events, e.ticketId = id) (new : events ≠ [])
    (between : (revision + events.length) % interval ≠ 0)
    (source : s.source u id = some (start, base)) (low : base ≤ revision) :
    Durable.load u (s.commit interval id revision events next) id =
      foldTicket u start id base (s.eventsWithin id base revision ++ events.map Encoded.mk ++
        s.eventsAfter id revision) := by
  have taken := @DurableStore.snapshot_commit_self interval s id revision events next
  rw [if_neg between] at taken
  have sourceNow : (s.commit interval id revision events next).source u id = some (start, base) := by
    rw [← source, DurableStore.source, DurableStore.source, taken]
  have stored : ¬ (s.commit interval id revision events next).Bare id := by
    rintro ⟨_, empty⟩
    rw [DurableStore.eventsAfter_commit admits own (Nat.zero_le revision)] at empty
    simp only [List.append_eq_nil_iff, List.map_eq_nil_iff] at empty
    exact new empty.1.2
  rw [load_of_source sourceNow stored, DurableStore.eventsAfter_commit admits own low]

theorem fold_decoded_iff {start mid : QueueSnapshot} {front : List (Encoded TicketEvent)}
    (own : ∀ e ∈ events, e.ticketId = id) (reached : foldPayloads u start front = .ok mid) :
    (∃ acc, foldPayloads u start (front ++ events.map Encoded.mk) = .ok acc ∧
        acc.get id = some next) ↔
      ∃ events', Decoded u (events.map Encoded.mk) events' ∧
        evolveAll (mid.get id) events' = some next := by
  have ownPayloads : ∀ p ∈ events.map Encoded.mk, p.json.ticketId = id := own_drop own 0
  rw [foldPayloads_append, reached]
  simp only [foldPayloads_eq_ok]
  constructor
  · rintro ⟨_, ⟨events', decoded, rfl⟩, found⟩
    rw [get_applyMany mid (decoded.own ownPayloads)] at found
    exact ⟨events', decoded, found⟩
  · rintro ⟨events', decoded, found⟩
    rw [← get_applyMany mid (decoded.own ownPayloads)] at found
    exact ⟨_, ⟨events', decoded, rfl⟩, found⟩

/-- A load after a commit on what was loaded, from whatever the store holds besides. -/
theorem load_commit_iff {t : Ticket} (read : Durable.load u s id = .ok ⟨t, revision⟩)
    (new : events ≠ []) (own : ∀ e ∈ events, e.ticketId = id)
    (evolved : evolveAll (some t) events = some next) (admits : s.Admits revision events) :
    Durable.load u (s.commit interval id revision events next) id =
        .ok ⟨next, revision + events.length⟩ ↔
      ReadsBack u interval s id revision events next := by
  unfold ReadsBack
  by_cases due : (revision + events.length) % interval = 0
  · rw [load_commit_snapshot admits own due]
    by_cases nothing : s.eventsAfter id revision = []
    · simp [nothing, due]
    · simp [nothing, due]
  · obtain ⟨start, base, source, low, before⟩ := source_of_load read
    have whole := @DurableStore.eventsAfter_split s id base revision low
    rw [load_commit_events admits own new due source low, foldTicket_ok_iff]
    by_cases nothing : s.eventsAfter id revision = []
    · rw [nothing, List.append_nil] at whole ⊢
      simp only [if_true, if_neg due]
      rcases before with ⟨held, before⟩ | ⟨bare, rfl, rfl⟩
      · rw [whole] at before
        obtain ⟨⟨mid, reached, found⟩, counted⟩ := foldTicket_ok_iff.mp before
        rw [fold_decoded_iff own reached, found, reread_iff evolved, List.length_append,
          List.length_map]
        constructor
        · exact fun h => ⟨h.1, fun bare => absurd bare held⟩
        · exact fun h => ⟨h.1, by omega⟩
      · rw [bare.2] at whole
        have reached : foldPayloads u .empty (s.eventsWithin id 0 revision) = .ok .empty := by
          rw [← whole]
          rfl
        rw [fold_decoded_iff own reached, QueueSnapshot.get_empty, reread_none_iff evolved, ← whole,
          List.nil_append, List.length_map]
        constructor
        · exact fun h => ⟨h.1.2, fun _ => ⟨by omega, h.1.1⟩⟩
        · exact fun h => ⟨⟨(h.2 bare).2, h.1⟩, by have := (h.2 bare).1; omega⟩
    · simp only [if_neg nothing]
      rcases before with ⟨held, before⟩ | ⟨bare, rfl, rfl⟩
      · have counted := (foldTicket_ok_iff.mp before).2
        rw [whole, List.length_append] at counted
        constructor
        · exact fun h => ⟨due, start, base, h.1.choose, source, h.1.choose_spec⟩
        · rintro ⟨_, start', base', acc, again, folded⟩
          cases again.symm.trans source
          refine ⟨⟨acc, folded⟩, ?_⟩
          rw [List.length_append, List.length_append, List.length_map]
          omega
      · rw [bare.2] at whole
        exact absurd (List.append_eq_nil_iff.mp whole.symm).2 nothing

end

end

/-- After a save succeeds on what was loaded, a load returns what was saved exactly where the
events are stored in order, and what was written is what will be read. -/
theorem save_read_back_iff (u : Unicode) (interval : Nat) (s s' : DurableStore) (id : TicketId)
    (t next : Ticket) (revision : Nat) (events : List TicketEvent)
    (read : Durable.load u s id = .ok ⟨t, revision⟩) (new : events ≠ [])
    (own : ∀ e ∈ events, e.ticketId = id)
    (folded : (applyMany (QueueSnapshot.empty.set id t) events).get id = some next)
    (saved : Durable.save interval id revision events next s = (.ok (), s')) :
    Durable.load u s' id = .ok ⟨next, revision + events.length⟩ ↔
      ReadsBack u interval s id revision events next := by
  obtain ⟨_, accepts, rfl⟩ := save_eq_ok.mp saved
  have evolved : evolveAll (some t) events = some next := by
    rw [← folded, get_applyMany _ own, QueueSnapshot.get_set_self]
  exact load_commit_iff read new own evolved accepts.admits

namespace Sample

/-- Seed data: a row at revision 1, without an event and without a snapshot. -/
def legacy : DurableStore :=
  { DurableStore.empty with tickets := [ticketColumns issued.ticket 1 ⟨issued.ticket⟩] }

def calledLegacy : Except QueueError Unit × DurableStore :=
  Durable.save 200 ⟨1⟩ 1 [called.event] called.ticket legacy

end Sample

/-- The first save on a legacy row succeeds, and from then on the ticket is not found. -/
theorem legacy_row_forgotten :
    Durable.load Sample.unicode Sample.legacy ⟨1⟩ = .ok ⟨Sample.issued.ticket, 1⟩ ∧
      (Sample.legacy.row ⟨1⟩).map TicketRow.revision = some 1 ∧
      (applyMany (QueueSnapshot.empty.set ⟨1⟩ Sample.issued.ticket) [Sample.called.event]).get ⟨1⟩ =
        some Sample.called.ticket ∧
      Sample.calledLegacy.1 = .ok () ∧
      Durable.load Sample.unicode Sample.calledLegacy.2 ⟨1⟩ = .error .aggregateNotFound :=
  ⟨by decide, by decide, by decide, by decide, by decide⟩

theorem save_read_back_iff_sample :
    Durable.load Sample.unicode Sample.calledLegacy.2 ⟨1⟩ = .ok ⟨Sample.called.ticket, 2⟩ ↔
      ReadsBack Sample.unicode 200 Sample.legacy ⟨1⟩ 1 [Sample.called.event] Sample.called.ticket :=
  save_read_back_iff Sample.unicode 200 Sample.legacy Sample.calledLegacy.2 ⟨1⟩
    Sample.issued.ticket Sample.called.ticket 1 [Sample.called.event] (by decide)
    (by simp) (by decide) (by decide) (Prod.ext (by decide) rfl)

end SlotBooking
