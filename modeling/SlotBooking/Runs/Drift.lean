import SlotBooking.Adapters.DurableListing
import SlotBooking.Runs.Texts

/-! Three copies of a ticket: the projection row, the replayed log, and the load from snapshot
and delta. They agree in every run without a repeated check-in, where the texts of each issue
come to rest after one decoding. -/
namespace SlotBooking

/-- Texts which decode to texts that the codec gives back. -/
def Settles (u : Unicode) (f : CustomerFields) : Prop :=
  ∃ g, decodeFields u f = some g ∧ Canonical u g

/-- The ticket replayed from all its events in seq order. -/
def DurableStore.replayed (u : Unicode) (s : DurableStore) (id : TicketId) : Option Ticket := do
  let events ← ((s.ticketEvents.filter (fun r => r.ticketId = id)).insertionSort
    (fun a b => a.seq ≤ b.seq)).mapM (fun r => decodeEventRowPayload u r.payload)
  (replay events).get id

/-- A call which makes no copy drift. A check-in that goes through is the first of its ticket or
reads the recorded instant again; an issue merges, is refused by the encoder, or has texts
which settle. -/
def Driftless (u : Unicode) (s : DurableStore) (ports : Ports) : UseCase → Prop
  | .checkIn id => ∀ row appointmentAt, s.row id = some row → row.state = .waiting →
      row.payload.json.appointmentAt = some appointmentAt →
      checkInOpen appointmentAt (ports.nowInstant 0) →
      row.payload.json.checkedInAt = none ∨
        row.payload.json.checkedInAt = some (ports.nowInstant 1)
  | .issueTicket input =>
      (∃ r ∈ s.tickets, Durable.holdsHandle input.handle r = true) ∨
        (CustomerFields.Valid ⟨input.handle, input.freeText⟩ →
          Settles u ⟨input.handle, input.freeText⟩)
  | _ => True

def DriftlessRun (u : Unicode) (interval : Nat) : List (Ports × UseCase) → DurableStore → Prop
  | [], _ => True
  | call :: calls, s => Driftless u s call.1 call.2 ∧
      DriftlessRun u interval calls (call.2.run (Durable.repository u interval) call.1 s).2

section
variable {u : Unicode} {interval : Nat} {s s' : DurableStore}

/-! ### Reading settled texts -/

theorem readable_settles : Readable u (Settles u) := by
  rintro f ⟨g, decoded, canonical⟩
  exact ⟨g, decoded, g, canonical, canonical⟩

theorem readEvent_settled {e : TicketEvent}
    (settles : ∀ f, e.body.fields = some f → Settles u f) :
    ∀ f, (readEvent u e).body.fields = some f → Canonical u f := by
  intro f hf
  rcases fields_cases e with textless | ⟨data, body⟩
  · rw [readEvent_textless textless, textless] at hf
    cases hf
  · obtain ⟨g, decoded, canonical⟩ := settles data.toCustomerFields (by rw [body]; rfl)
    rw [readEvent_issued body decoded] at hf
    cases hf
    exact canonical

/-- A transition followed by the fold, a check-in at the recorded instant included. -/
theorem Move.evolve_punctual {t : Ticket} {result : ApplyResult} (move : Move t result)
    (punctual : result.event.type = .checkedIn →
      t.checkedInAt = none ∨ t.checkedInAt = some result.event.occurredAt) :
    evolve (some t) result.event = some result.ticket := by
  by_cases once : result.event.type = .checkedIn → t.checkedInAt = none
  · exact move.evolve_eq once
  · obtain ⟨isCheckIn, again⟩ := Classical.not_imp.mp once
    have recorded := (punctual isCheckIn).resolve_left again
    obtain ⟨waiting, time, eventId, actor, rfl, rfl⟩ := move.checkIn_of_type isCheckIn
    rw [Move.evolve_checkIn_again again]
    change _ = some (Ticket.mk { waiting with checkedInAt := some time } .waiting)
    rw [← show waiting.checkedInAt = some time from recorded]

/-! ### The invariant -/

/-- All texts settle, and as its readers see it every aggregate is faithful. -/
structure DurableStore.Steady (u : Unicode) (s : DurableStore) : Prop where
  texts : ∀ id, Texts (Settles u) (s.aggregate id)
  faithful : ∀ id, (asRead u (s.aggregate id)).Faithful evolve

theorem steady_empty : DurableStore.empty.Steady u where
  texts := fun _ => texts_empty
  faithful := fun _ => EventSourcing.Aggregate.faithful_empty

theorem DurableStore.Steady.load_ok (steady : s.Steady u) (kept : s.Kept) {id : TicketId}
    {loaded : LoadedAggregate} (read : Durable.load u s id = .ok loaded) :
    (asRead u (s.aggregate id)).latest = some (loaded.state, loaded.revision) ∧
      evolveAll none (asRead u (s.aggregate id)).log = some loaded.state ∧
      loaded.revision = (s.aggregate id).log.length ∧
      Canonical u loaded.state.toCustomerFields := by
  have faithful := steady.faithful id
  have seen := kept.load_read readable_settles (steady.texts id)
  rw [faithful.load_latest, read] at seen
  have latest := faithful.latest
  cases row : (asRead u (s.aggregate id)).latest with
  | none => rw [row] at seen; cases seen
  | some p =>
    rw [row] at seen latest
    cases seen
    obtain ⟨t, folded, same⟩ := Option.map_eq_some_iff.mp latest.symm
    cases same
    refine ⟨rfl, folded, List.length_map _, ?_⟩
    apply evolveAll_fields (P := Canonical u) _ (by simp) folded
    intro e mem
    obtain ⟨stored, inLog, rfl⟩ := List.mem_map.mp mem
    exact readEvent_settled ((steady.texts id).log stored inLog)

theorem DurableStore.Steady.commit (steady : s.Steady u) (tidy : s.Tidy) {id : TicketId}
    {expected : Nat} {e : TicketEvent} {next : Ticket} (own : e.ticketId = id) (nextId : next.id = id)
    (current : expected = (s.aggregate id).log.length)
    (texts : Texts (Settles u) ((s.commit interval id expected [e] next).aggregate id))
    (folded : evolve (evolveAll none (asRead u (s.aggregate id)).log) (readEvent u e) =
      some (readTicket u next)) : (s.commit interval id expected [e] next).Steady u := by
  have owns : ∀ e' ∈ [e], e'.ticketId = id := by simpa using own
  have counted : (s.aggregate id).log.length = (asRead u (s.aggregate id)).log.length :=
    (List.length_map (readEvent u)).symm
  constructor
  · apply forall_aggregate_commit tidy owns nextId steady.texts
    rwa [aggregate_commit tidy.ticketsKeyed tidy.snapshotsKeyed owns nextId, if_pos rfl] at texts
  · apply forall_aggregate_commit (P := fun a => (asRead u a).Faithful evolve) tidy owns nextId
      steady.faithful
    rw [asRead, EventSourcing.Aggregate.map_commit, current, counted]
    apply (steady.faithful id).commit interval
    rw [EventSourcing.fold_append]
    exact folded

theorem Moved.steady {loaded : LoadedAggregate} {result : ApplyResult}
    (moved : Moved u interval s s' loaded result) (kept : s.Kept) (steady : s.Steady u)
    (punctual : result.event.type = .checkedIn → loaded.state.checkedInAt = none ∨
      loaded.state.checkedInAt = some result.event.occurredAt) : s'.Steady u := by
  obtain ⟨_, folded, counted, canonical⟩ := steady.load_ok kept moved.read
  have texts := moved.texts kept readable_settles (steady.texts loaded.state.id)
  have rested : readTicket u result.ticket = result.ticket := by
    apply readTicket_canonical
    rw [moved.move.sameCore.fields]
    exact canonical
  rw [moved.store] at texts ⊢
  apply steady.commit kept.tidy moved.move.event_ticketId moved.move.sameCore.id counted texts
  rw [folded, readEvent_textless moved.move.event_fields, rested]
  exact moved.move.evolve_punctual punctual

theorem Issued.steady {ports : Ports} {input : IssueTicketInput} {all : List Ticket}
    (issued : Issued u interval ports input s s' all) (kept : s.Kept) (steady : s.Steady u)
    (settles : Settles u ⟨input.handle, input.freeText⟩) : s'.Steady u := by
  have texts := issued.texts kept settles
  have empty := (issued.aggregate kept).1
  obtain ⟨g, decoded, canonical⟩ := settles
  have nextId : (issueResult ports input s all).ticket.id = ports.newTicketId := rfl
  have own : (issueResult ports input s all).event.ticketId = ports.newTicketId := rfl
  rw [issued.store] at texts ⊢
  apply steady.commit kept.tidy own nextId _ texts
  · have reads := @readEvent_issued u (issueResult ports input s all).event _ g rfl decoded
    have writes := @readTicket_decoded u (issueResult ports input s all).ticket g decoded
    rw [empty, reads, writes, evolve_issued _ rfl]
    rfl
  · rw [empty]
    rfl

/-! ### Runs -/

theorem DurableStore.Steady.row_of_load (steady : s.Steady u) (kept : s.Kept) {id : TicketId}
    {loaded : LoadedAggregate} (read : Durable.load u s id = .ok loaded) :
    ∃ row, s.row id = some row ∧ readTicket u row.payload.json = loaded.state ∧
      row.state = loaded.state.state := by
  obtain ⟨row, found, state⟩ := kept.state_of_load read
  have latest := (steady.load_ok kept read).1
  simp only [asRead, EventSourcing.Aggregate.map, DurableStore.aggregate, found, Option.map_some,
    Option.some.injEq, Prod.mk.injEq] at latest
  exact ⟨row, found, latest.1, state⟩

theorem readTicket_times (t : Ticket) : (readTicket u t).appointmentAt = t.appointmentAt ∧
    (readTicket u t).checkedInAt = t.checkedInAt := by
  unfold readTicket
  cases read : decodeTicketRowPayload u ⟨t⟩ with
  | none => exact ⟨rfl, rfl⟩
  | some t' =>
    obtain ⟨f, _, rfl⟩ := decodeTicketRowPayload_eq_some.mp read
    exact ⟨rfl, rfl⟩

theorem Outcome.steady {ports : Ports} {c : UseCase} {r : Except QueueError Reply × DurableStore}
    (outcome : Outcome u interval ports s c r) (kept : s.Kept) (steady : s.Steady u)
    (driftless : Driftless u s ports c) : r.2.Steady u := by
  have called : ∀ s', Relation.ReflTransGen (Called u interval) s s' → s'.Kept ∧ s'.Steady u := by
    intro s' calls
    induction calls with
    | refl => exact ⟨kept, steady⟩
    | tail _ call ih =>
      obtain ⟨t, revision, args, moved⟩ := call
      exact ⟨moved.kept ih.1, moved.steady ih.1 ih.2 (fun other => by cases other)⟩
  cases outcome with
  | refused | answered => exact steady
  | issued input all s' step =>
    rcases driftless with ⟨r, mem, holds⟩ | settles
    · exact absurd holds (List.find?_eq_none.mp (findActiveByHandle_none.mp step.free) r mem)
    · exact step.steady kept steady (settles step.accepts.valid)
  | moved c loaded result reply s' decides step =>
    apply step.steady kept steady
    intro isCheckIn
    cases decides with
    | save c id saves loaded result read move minted other => exact absurd isCheckIn other
    | checkIn id t revision appointmentAt read booked inWindow =>
      obtain ⟨row, found, same, state⟩ := steady.row_of_load kept read
      obtain ⟨appointment, arrival⟩ := @readTicket_times u row.payload.json
      rw [same] at appointment arrival
      rw [arrival]
      exact driftless row appointmentAt found state (appointment.symm.trans booked) inWindow
  | called firstId restIds actor members s' built steps => exact (called s' steps).2
  | torn firstId restIds actor members e s' built steps => exact (called s' steps).2

theorem steady_run (kept : s.Kept) (steady : s.Steady u) (calls : List (Ports × UseCase))
    (driftless : DriftlessRun u interval calls s) :
    (runCalls (Durable.repository u interval) calls s).Kept ∧
      (runCalls (Durable.repository u interval) calls s).Steady u := by
  induction calls generalizing s with
  | nil => exact ⟨kept, steady⟩
  | cons call calls ih =>
    have outcome := @call_outcome u interval s kept call.1 call.2
    exact ih (outcome.kept kept) (outcome.steady kept steady driftless.1) driftless.2

theorem DurableStore.Steady.replayed_eq (steady : s.Steady u) (tidy : s.Tidy) (id : TicketId) :
    s.replayed u id = evolveAll none (asRead u (s.aggregate id)).log := by
  have decodes : ∀ r ∈ s.log id,
      decodeEventRowPayload u r.payload = some (readEvent u r.payload.json) := by
    intro r mem
    have inLog : r.payload.json ∈ (s.aggregate id).log := List.mem_map_of_mem mem
    exact (readable_settles.event ((steady.texts id).log _ inLog)).1
  have own : ∀ e ∈ (asRead u (s.aggregate id)).log, e.ticketId = id := by
    intro e mem
    obtain ⟨stored, inLog, rfl⟩ := List.mem_map.mp mem
    have read := (readable_settles.event ((steady.texts id).log _ inLog)).1
    have same := congrArg TicketEvent.ticketId (decodeEventRowPayload_valid read).1
    exact same.trans (tidy.own stored inLog)
  rw [← get_replay own, DurableStore.replayed, ← DurableStore.log, tidy.sorted_log,
    Traversal.mapM_total decodes]
  simp only [asRead, EventSourcing.Aggregate.map, DurableStore.aggregate, List.map_map]
  rfl

end

/-- In every run of driftless calls the decoded row, the replayed log and the load of each
ticket are one ticket, at the revision of the row. -/
theorem row_log_load_agree (u : Unicode) (interval : Nat) (calls : List (Ports × UseCase))
    (driftless : DriftlessRun u interval calls .empty) (id : TicketId) :
    let s := runCalls (Durable.repository u interval) calls .empty
    (∀ row, s.row id = some row → ∃ t, decodeTicketRowPayload u row.payload = some t ∧
      s.replayed u id = some t ∧ Durable.load u s id = .ok ⟨t, row.revision⟩) ∧
    (s.row id = none → s.replayed u id = none ∧
      Durable.load u s id = .error .aggregateNotFound) := by
  intro s
  obtain ⟨kept, steady⟩ := steady_run DurableStore.kept_empty steady_empty calls driftless
  have faithful := steady.faithful id
  have seen := kept.load_read readable_settles (steady.texts id)
  have replayed := steady.replayed_eq kept.tidy id
  rw [faithful.load_latest] at seen
  have latest := faithful.latest
  constructor
  · intro row present
    have stored : (s.aggregate id).latest = some (row.payload.json, row.revision) := by
      rw [DurableStore.aggregate, present]
      rfl
    have read := (readable_settles.ticket ((steady.texts id).latest _ _ stored)).1
    have view : (asRead u (s.aggregate id)).latest =
        some (readTicket u row.payload.json, row.revision) := by
      rw [asRead, EventSourcing.Aggregate.map, stored]
      rfl
    rw [view] at seen latest
    obtain ⟨t, folded, same⟩ := Option.map_eq_some_iff.mp latest.symm
    have ticket : t = readTicket u row.payload.json := congrArg Prod.fst same
    exact ⟨_, read, replayed.trans (folded.trans (congrArg some ticket)), seen⟩
  · intro absent
    have view : (asRead u (s.aggregate id)).latest = none := by
      rw [asRead, EventSourcing.Aggregate.map, DurableStore.aggregate, absent]
      rfl
    rw [view] at seen latest
    exact ⟨replayed.trans (Option.map_eq_none_iff.mp latest.symm), seen⟩

namespace Sample

def oneReservation : List (Ports × UseCase) := [(ports 1, .issueTicket reservation)]

def twoArrivals : List (Ports × UseCase) :=
  [(ports 1, .issueTicket reservation), (ports 2, .checkIn ⟨1⟩), (ports 3, .checkIn ⟨1⟩)]

end Sample

/-- After a second check-in the row has the later arrival, and the log the earlier one. -/
theorem second_arrival_drifts :
    ∃ row t, (runCalls (Durable.repository Sample.unicode 200) Sample.twoArrivals .empty).row ⟨1⟩ =
        some row ∧ decodeTicketRowPayload Sample.unicode row.payload = some t ∧
      (runCalls (Durable.repository Sample.unicode 200) Sample.twoArrivals .empty).replayed
        Sample.unicode ⟨1⟩ ≠ some t ∧
      Durable.load Sample.unicode
        (runCalls (Durable.repository Sample.unicode 200) Sample.twoArrivals .empty) ⟨1⟩ ≠
          .ok ⟨t, row.revision⟩ := by
  have stored : (((runCalls (Durable.repository Sample.unicode 200) Sample.twoArrivals .empty).row
      ⟨1⟩).bind (fun row => decodeTicketRowPayload Sample.unicode row.payload)).map
        (fun t => t.checkedInAt) = some (some (Sample.instant 31)) := by decide +kernel
  have replayed : ((runCalls (Durable.repository Sample.unicode 200) Sample.twoArrivals
      .empty).replayed Sample.unicode ⟨1⟩).map (fun t => t.checkedInAt) =
        some (some (Sample.instant 21)) := by decide +kernel
  have loaded : (Durable.load Sample.unicode (runCalls (Durable.repository Sample.unicode 200)
      Sample.twoArrivals .empty) ⟨1⟩).map (fun l => l.state.checkedInAt) =
        .ok (some (Sample.instant 21)) := by decide +kernel
  have different : Sample.instant 31 ≠ Sample.instant 21 := by decide
  obtain ⟨t, decoded, arrival⟩ := Option.map_eq_some_iff.mp stored
  obtain ⟨row, found, read⟩ := Option.bind_eq_some_iff.mp decoded
  refine ⟨row, t, found, read, ?_, ?_⟩
  · intro same
    rw [same, Option.map_some, arrival] at replayed
    exact different (Option.some.inj (Option.some.inj replayed))
  · intro same
    rw [same] at loaded
    exact different (Option.some.inj (arrival.symm.trans (Except.ok.inj loaded)))

theorem row_log_load_agree_sample :
    let s := runCalls (Durable.repository Sample.unicode 200)
      [(Sample.ports 1, .issueTicket Sample.reservation), (Sample.ports 2, .checkIn ⟨1⟩)] .empty
    (∀ row, s.row ⟨1⟩ = some row → ∃ t, decodeTicketRowPayload Sample.unicode row.payload = some t ∧
      s.replayed Sample.unicode ⟨1⟩ = some t ∧
      Durable.load Sample.unicode s ⟨1⟩ = .ok ⟨t, row.revision⟩) ∧
    (s.row ⟨1⟩ = none → s.replayed Sample.unicode ⟨1⟩ = none ∧
      Durable.load Sample.unicode s ⟨1⟩ = .error .aggregateNotFound) := by
  apply row_log_load_agree Sample.unicode 200
  refine ⟨.inr (fun _ => ⟨⟨Sample.handle, none⟩, by decide, by decide⟩), ?_, trivial⟩
  intro row appointmentAt found
  have first : ∀ row, (runCalls (Durable.repository Sample.unicode 200) Sample.oneReservation
      .empty).row ⟨1⟩ = some row → row.payload.json.checkedInAt = none := by
    intro row found
    cases found
    rfl
  exact fun _ _ _ => .inl (first row found)

end SlotBooking
