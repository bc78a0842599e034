import SlotBooking.Adapters.Durable

/-! The writes of the Durable Object repository, described as a whole. A write either runs
all its statements, and then it is one `commit`, or it stops at the statement that fails. -/
namespace SlotBooking

/-! ### The two constraints of the event table -/

def EventRow.Conflicts (a b : EventRow) : Prop :=
  a.id = b.id ∨ (a.ticketId = b.ticketId ∧ a.seq = b.seq)

theorem insertTicketEvent_eq_some {row : EventRow} {s s' : DurableStore} :
    insertTicketEvent row s = some s' ↔
      (∀ r ∈ s.ticketEvents, ¬ r.Conflicts row) ∧
        s' = { s with ticketEvents := s.ticketEvents ++ [row] } := by
  unfold insertTicketEvent EventRow.Conflicts
  split
  · rename_i taken
    refine ⟨nofun, fun h => ?_⟩
    obtain ⟨r, mem, same⟩ := List.any_eq_true.mp taken
    exact absurd (by simpa using same) (h.1 r mem)
  · rename_i free
    rw [Option.some.injEq]
    refine ⟨fun h => ⟨fun r mem same => free ?_, h.symm⟩, fun h => h.2.symm⟩
    exact List.any_eq_true.mpr ⟨r, mem, by simpa using same⟩

/-! ### The event loop -/

def eventRows : Nat → List TicketEvent → List EventRow
  | _, [] => []
  | seq, e :: rest => eventRow (seq + 1) ⟨e⟩ e :: eventRows (seq + 1) rest

namespace DurableStore

def append : Nat → List TicketEvent → DurableStore → DurableStore
  | _, [], s => s
  | seq, e :: rest, s =>
    append (seq + 1) rest (insertOutbox (outboxRow ⟨e⟩ e)
      { s with ticketEvents := s.ticketEvents ++ [eventRow (seq + 1) ⟨e⟩ e] })

/-- The event loop can run: every text encodes and no row conflicts. -/
structure Admits (s : DurableStore) (seq : Nat) (events : List TicketEvent) : Prop where
  valid : ∀ e ∈ events, e.Valid
  free : ∀ r ∈ s.ticketEvents, ∀ row ∈ eventRows seq events, ¬ r.Conflicts row
  apart : (eventRows seq events).Pairwise (fun a b => ¬ a.Conflicts b)

@[simp] theorem insertOutbox_ticketEvents (row : OutboxRow) (s : DurableStore) :
    (insertOutbox row s).ticketEvents = s.ticketEvents := by
  unfold insertOutbox
  split <;> rfl

@[simp] theorem insertOutbox_tickets (row : OutboxRow) (s : DurableStore) :
    (insertOutbox row s).tickets = s.tickets := by
  unfold insertOutbox
  split <;> rfl

@[simp] theorem insertOutbox_aggregateSnapshots (row : OutboxRow) (s : DurableStore) :
    (insertOutbox row s).aggregateSnapshots = s.aggregateSnapshots := by
  unfold insertOutbox
  split <;> rfl

@[simp] theorem append_ticketEvents (seq : Nat) (events : List TicketEvent) (s : DurableStore) :
    (s.append seq events).ticketEvents = s.ticketEvents ++ eventRows seq events := by
  induction events generalizing seq s with
  | nil => simp [append, eventRows]
  | cons e events ih => simp [append, eventRows, ih]

@[simp] theorem append_tickets (seq : Nat) (events : List TicketEvent) (s : DurableStore) :
    (s.append seq events).tickets = s.tickets := by
  induction events generalizing seq s with
  | nil => rfl
  | cons e events ih => simp [append, ih]

@[simp] theorem append_aggregateSnapshots (seq : Nat) (events : List TicketEvent)
    (s : DurableStore) : (s.append seq events).aggregateSnapshots = s.aggregateSnapshots := by
  induction events generalizing seq s with
  | nil => rfl
  | cons e events ih => simp [append, ih]

theorem admits_nil (s : DurableStore) (seq : Nat) : s.Admits seq [] where
  valid := by simp
  free := by simp [eventRows]
  apart := .nil

theorem admits_cons {s : DurableStore} {seq : Nat} {e : TicketEvent} {rest : List TicketEvent} :
    s.Admits seq (e :: rest) ↔ e.Valid ∧
      (∀ r ∈ s.ticketEvents, ¬ r.Conflicts (eventRow (seq + 1) ⟨e⟩ e)) ∧
      (insertOutbox (outboxRow ⟨e⟩ e)
        { s with ticketEvents := s.ticketEvents ++ [eventRow (seq + 1) ⟨e⟩ e] }).Admits
          (seq + 1) rest := by
  constructor
  · intro admits
    obtain ⟨first, later⟩ := List.pairwise_cons.mp admits.apart
    refine ⟨admits.valid e List.mem_cons_self,
      fun r mem => admits.free r mem _ List.mem_cons_self,
      fun e' mem => admits.valid e' (List.mem_cons_of_mem e mem), ?_, later⟩
    intro r mem row hrow
    rw [insertOutbox_ticketEvents, List.mem_append, List.mem_singleton] at mem
    rcases mem with mem | rfl
    · exact admits.free r mem row (List.mem_cons_of_mem _ hrow)
    · exact first row hrow
  · rintro ⟨valid, free, tail⟩
    rcases tail with ⟨validTail, freeTail, apart⟩
    simp only [insertOutbox_ticketEvents, List.mem_append, List.mem_singleton] at freeTail
    refine ⟨?_, ?_, List.pairwise_cons.mpr ⟨fun row hrow => freeTail _ (.inr rfl) row hrow, apart⟩⟩
    · intro e' mem
      rcases List.mem_cons.mp mem with rfl | mem
      · exact valid
      · exact validTail e' mem
    · intro r mem row hrow
      rcases List.mem_cons.mp hrow with rfl | hrow
      · exact free r mem
      · exact freeTail r (.inl mem) row hrow

end DurableStore

theorem appendEvents_eq_ok {reason : String} {seq : Nat} {events : List TicketEvent}
    {s s' : DurableStore} :
    Durable.appendEvents reason seq events s = (.ok (), s') ↔
      s.Admits seq events ∧ s' = s.append seq events := by
  induction events generalizing seq s with
  | nil =>
    constructor
    · intro h
      cases h
      exact ⟨DurableStore.admits_nil s' seq, rfl⟩
    · rintro ⟨_, rfl⟩
      rfl
  | cons e events ih =>
    rw [DurableStore.admits_cons]
    constructor
    · intro h
      obtain ⟨payload, m, encoded, h⟩ := Effect.bind_eq_ok h
      obtain ⟨encodes, rfl⟩ := Effect.attempt_eq_ok encoded
      obtain ⟨rfl, valid⟩ := encodeEventRowPayload_eq_some.mp encodes
      obtain ⟨_, m, inserted, h⟩ := Effect.bind_eq_ok h
      obtain ⟨free, rfl⟩ := insertTicketEvent_eq_some.mp (Effect.exec_eq_ok_iff.mp inserted)
      obtain ⟨_, m, outbox, h⟩ := Effect.bind_eq_ok h
      cases Effect.exec_eq_ok_iff.mp outbox
      obtain ⟨admits, rfl⟩ := ih.mp h
      exact ⟨⟨valid, free, admits⟩, rfl⟩
    · rintro ⟨⟨valid, free, admits⟩, rfl⟩
      refine (Effect.attempt_bind s (encodeEventRowPayload_valid valid)).trans ?_
      refine (Effect.exec_bind (insertTicketEvent_eq_some.mpr ⟨free, rfl⟩)).trans ?_
      refine (Effect.exec_bind (by rfl)).trans ?_
      exact ih.mpr ⟨admits, rfl⟩

theorem appendEvents_one (reason : String) (seq : Nat) (e : TicketEvent) (s : DurableStore) :
    Durable.appendEvents reason seq [e] s = (.ok (), s.append seq [e]) ∨
      ∃ err, Durable.appendEvents reason seq [e] s = (.error err, s) := by
  cases encoded : encodeEventRowPayload e with
  | none =>
    exact .inr ⟨.storage reason, Effect.bind_error (by rw [encoded, Effect.attempt_none])⟩
  | some payload =>
    obtain ⟨rfl, valid⟩ := encodeEventRowPayload_eq_some.mp encoded
    cases inserted : insertTicketEvent (eventRow (seq + 1) ⟨e⟩ e) s with
    | none =>
      exact .inr ⟨.storage reason, (Effect.attempt_bind s encoded).trans
        (Effect.bind_error (Effect.exec_none inserted))⟩
    | some m =>
      obtain ⟨free, rfl⟩ := insertTicketEvent_eq_some.mp inserted
      exact .inl (appendEvents_eq_ok.mpr
        ⟨DurableStore.admits_cons.mpr ⟨valid, free, DurableStore.admits_nil _ _⟩, rfl⟩)

/-- Nothing is written where the first event has its number or its id taken. -/
theorem appendEvents_refused {reason : String} {seq : Nat} {e : TicketEvent}
    {rest : List TicketEvent} {s : DurableStore} {r : EventRow} (mem : r ∈ s.ticketEvents)
    (taken : r.Conflicts (eventRow (seq + 1) ⟨e⟩ e)) :
    ∃ err, Durable.appendEvents reason seq (e :: rest) s = (.error err, s) := by
  refine ⟨.storage reason, ?_⟩
  cases encoded : encodeEventRowPayload e with
  | none => exact Effect.bind_error (by rw [encoded, Effect.attempt_none])
  | some payload =>
    obtain ⟨rfl, _⟩ := encodeEventRowPayload_eq_some.mp encoded
    cases inserted : insertTicketEvent (eventRow (seq + 1) ⟨e⟩ e) s with
    | none =>
      exact (Effect.attempt_bind s encoded).trans (Effect.bind_error (Effect.exec_none inserted))
    | some m => exact absurd taken ((insertTicketEvent_eq_some.mp inserted).1 r mem)

/-! ### The projection row and the snapshot -/

namespace DurableStore

def stored (s : DurableStore) (row : TicketRow) : TicketRow :=
  Table.upserted TicketRow.id updateTicketRow row s.tickets

theorem stored_present {s : DurableStore} {row old : TicketRow} (h : s.row row.id = some old) :
    s.stored row = updateTicketRow old row := Table.upserted_present h

theorem stored_absent {s : DurableStore} {row : TicketRow} (h : s.row row.id = none) :
    s.stored row = row := Table.upserted_absent h

/-- The partial unique index refuses the row. -/
def Clashes (s : DurableStore) (row : TicketRow) : Prop :=
  ∃ r ∈ s.tickets, clashesWith (s.stored row) r = true

instance (s : DurableStore) (row : TicketRow) : Decidable (s.Clashes row) :=
  inferInstanceAs (Decidable (∃ r ∈ s.tickets, clashesWith (s.stored row) r = true))

def project (interval : Nat) (id : TicketId) (next : Ticket) (revision : Nat) (s : DurableStore) :
    DurableStore :=
  { s with
    tickets :=
      Table.put TicketRow.id updateTicketRow (ticketColumns next revision ⟨next⟩) s.tickets
    aggregateSnapshots :=
      if revision % interval = 0 then
        Table.put SnapshotRow.ticketId (fun _ excluded => excluded) ⟨id, revision, ⟨next⟩⟩
          s.aggregateSnapshots
      else s.aggregateSnapshots }

def commit (interval : Nat) (id : TicketId) (expected : Nat) (events : List TicketEvent)
    (next : Ticket) (s : DurableStore) : DurableStore :=
  (s.append expected events).project interval id next (expected + events.length)

structure Accepts (s : DurableStore) (expected : Nat) (events : List TicketEvent)
    (next : Ticket) : Prop where
  admits : s.Admits expected events
  valid : next.toCustomerFields.Valid
  clear : ¬ s.Clashes (ticketColumns next (expected + events.length) ⟨next⟩)

end DurableStore

theorem clashesWith_iff {row r : TicketRow} :
    clashesWith row r = true ↔ r.id ≠ row.id ∧ r.state.isActive ∧ row.state.isActive ∧
      r.nameKana.isSome ∧ r.nameKana = row.nameKana ∧
      r.phoneLast4.isSome ∧ r.phoneLast4 = row.phoneLast4 := by
  simp [clashesWith, and_assoc]

theorem clashesWith_comm (row r : TicketRow) : clashesWith row r = clashesWith r row := by
  rw [Bool.eq_iff_iff, clashesWith_iff, clashesWith_iff]
  constructor
  · rintro ⟨different, a, b, c, d, e, f⟩
    exact ⟨different.symm, b, a, d ▸ c, d.symm, f ▸ e, f.symm⟩
  · rintro ⟨different, a, b, c, d, e, f⟩
    exact ⟨different.symm, b, a, d ▸ c, d.symm, f ▸ e, f.symm⟩

theorem upsertTicket_eq_some {row : TicketRow} {s s' : DurableStore} :
    upsertTicket row s = some s' ↔ ¬ s.Clashes row ∧
      s' = { s with tickets := Table.put TicketRow.id updateTicketRow row s.tickets } := by
  have taken : s.tickets.any (clashesWith (s.stored row)) = true ↔ s.Clashes row :=
    List.any_eq_true
  change (if s.tickets.any (clashesWith (s.stored row)) then none else some _) = some s' ↔ _
  split
  · rename_i clash
    exact ⟨nofun, fun h => absurd (taken.mp clash) h.1⟩
  · rename_i clear
    rw [Option.some.injEq]
    exact ⟨fun h => ⟨fun clash => clear (taken.mpr clash), h.symm⟩, fun h => h.2.symm⟩

theorem writeProjection_eq_ok {interval : Nat} {reason : String} {id : TicketId} {next : Ticket}
    {revision : Nat} {s s' : DurableStore} :
    Durable.writeProjection interval reason id next revision s = (.ok (), s') ↔
      next.toCustomerFields.Valid ∧ ¬ s.Clashes (ticketColumns next revision ⟨next⟩) ∧
        s' = s.project interval id next revision := by
  constructor
  · intro h
    obtain ⟨payload, m, encoded, h⟩ := Effect.bind_eq_ok h
    obtain ⟨encodes, rfl⟩ := Effect.attempt_eq_ok encoded
    obtain ⟨rfl, valid⟩ := encodeTicketRowPayload_eq_some.mp encodes
    obtain ⟨_, m, upserted, h⟩ := Effect.bind_eq_ok h
    obtain ⟨clear, rfl⟩ := upsertTicket_eq_some.mp (Effect.exec_eq_ok_iff.mp upserted)
    refine ⟨valid, clear, ?_⟩
    split at h
    · rename_i due
      obtain ⟨snapshot, m, again, h⟩ := Effect.bind_eq_ok h
      obtain ⟨encodes, rfl⟩ := Effect.attempt_eq_ok again
      obtain ⟨rfl, _⟩ := encodeTicketRowPayload_eq_some.mp encodes
      cases Effect.exec_eq_ok_iff.mp h
      simp only [DurableStore.project, if_pos due, upsertSnapshot]
    · rename_i notDue
      cases h
      simp only [DurableStore.project, if_neg notDue]
  · rintro ⟨valid, clear, rfl⟩
    have encoded := encodeTicketRowPayload_valid valid
    refine (Effect.attempt_bind s encoded).trans ?_
    refine (Effect.exec_bind (upsertTicket_eq_some.mpr ⟨clear, rfl⟩)).trans ?_
    split
    · rename_i due
      refine (Effect.attempt_bind _ encoded).trans (Effect.exec_eq_ok_iff.mpr ?_)
      simp only [DurableStore.project, if_pos due, upsertSnapshot]
    · rename_i notDue
      simp only [DurableStore.project, if_neg notDue, Effect.succeed_run]

/-! ### Whole writes -/

theorem clashes_append (seq : Nat) (events : List TicketEvent) (s : DurableStore)
    (row : TicketRow) : (s.append seq events).Clashes row ↔ s.Clashes row := by
  unfold DurableStore.Clashes DurableStore.stored
  rw [DurableStore.append_tickets]

theorem write_eq_ok {interval : Nat} {reason : String} {id : TicketId} {expected : Nat}
    {events : List TicketEvent} {next : Ticket} {s s' : DurableStore} :
    (do
      Durable.appendEvents reason expected events
      Durable.writeProjection interval reason id next (expected + events.length)) s =
        (.ok (), s') ↔
      s.Accepts expected events next ∧ s' = s.commit interval id expected events next := by
  constructor
  · intro h
    obtain ⟨_, m, appended, h⟩ := Effect.bind_eq_ok h
    obtain ⟨admits, rfl⟩ := appendEvents_eq_ok.mp appended
    obtain ⟨valid, clear, rfl⟩ := writeProjection_eq_ok.mp h
    exact ⟨⟨admits, valid, fun clash => clear ((clashes_append _ _ _ _).mpr clash)⟩, rfl⟩
  · rintro ⟨⟨admits, valid, clear⟩, rfl⟩
    refine (Effect.bind_ok (appendEvents_eq_ok.mpr ⟨admits, rfl⟩)).trans ?_
    exact writeProjection_eq_ok.mpr
      ⟨valid, fun clash => clear ((clashes_append _ _ _ _).mp clash), rfl⟩

/-- A write of one event fails before anything has landed, where the row that goes with an
admitted event is never refused. -/
theorem write_one {interval : Nat} {reason : String} {id : TicketId} {expected : Nat}
    {e : TicketEvent} {next : Ticket} {s : DurableStore}
    (follows : s.Admits expected [e] → s.Accepts expected [e] next) :
    ((do
      Durable.appendEvents reason expected [e]
      Durable.writeProjection interval reason id next (expected + [e].length)) s =
        (.ok (), s.commit interval id expected [e] next) ∧ s.Accepts expected [e] next) ∨
      ((∃ err, (do
        Durable.appendEvents reason expected [e]
        Durable.writeProjection interval reason id next (expected + [e].length)) s =
          (.error err, s)) ∧ ¬ s.Admits expected [e]) := by
  rcases appendEvents_one reason expected e s with appended | ⟨err, failed⟩
  · have accepts := follows (appendEvents_eq_ok.mp appended).1
    exact .inl ⟨write_eq_ok.mpr ⟨accepts, rfl⟩, accepts⟩
  · refine .inr ⟨⟨err, Effect.bind_error failed⟩, fun admits => ?_⟩
    rw [appendEvents_eq_ok.mpr ⟨admits, rfl⟩] at failed
    cases failed

theorem checkRevision_run (id : TicketId) (expected : Nat) (s : DurableStore) :
    Durable.checkRevision id expected s =
      if s.revision id ≠ expected then (.error (.concurrency expected (s.revision id)), s)
      else (.ok (), s) := by
  unfold Durable.checkRevision
  rw [Effect.inspect_run]
  split <;> rfl

theorem save_stale {interval : Nat} {id : TicketId} {expected : Nat} {events : List TicketEvent}
    {next : Ticket} {s : DurableStore} (stale : s.revision id ≠ expected) :
    Durable.save interval id expected events next s =
      (.error (.concurrency expected (s.revision id)), s) :=
  Effect.bind_error (by rw [checkRevision_run, if_pos stale])

theorem save_current {interval : Nat} {id : TicketId} {expected : Nat} {events : List TicketEvent}
    {next : Ticket} {s : DurableStore} (current : s.revision id = expected) :
    Durable.save interval id expected events next s =
      (do
        Durable.appendEvents "save" expected events
        Durable.writeProjection interval "save" id next (expected + events.length)) s :=
  Effect.bind_ok (by rw [checkRevision_run, if_neg (not_not.mpr current)])

theorem save_eq_ok {interval : Nat} {id : TicketId} {expected : Nat} {events : List TicketEvent}
    {next : Ticket} {s s' : DurableStore} :
    Durable.save interval id expected events next s = (.ok (), s') ↔
      s.revision id = expected ∧ s.Accepts expected events next ∧
        s' = s.commit interval id expected events next := by
  by_cases current : s.revision id = expected
  · rw [save_current current, write_eq_ok]
    exact ⟨fun h => ⟨current, h⟩, fun h => h.2⟩
  · rw [save_stale current]
    exact ⟨nofun, fun h => absurd h.1 current⟩

theorem issue_eq_ok {interval : Nat} {id : TicketId} {events : List TicketEvent} {next : Ticket}
    {s s' : DurableStore} :
    Durable.issue interval id events next s = (.ok (), s') ↔
      s.Accepts 0 events next ∧ s' = s.commit interval next.id 0 events next := by
  have h := @write_eq_ok interval "issue" next.id 0 events next s s'
  rwa [Nat.zero_add] at h

theorem issue_one {interval : Nat} {id : TicketId} {e : TicketEvent} {next : Ticket}
    {s : DurableStore} (follows : s.Admits 0 [e] → s.Accepts 0 [e] next) :
    (Durable.issue interval id [e] next s = (.ok (), s.commit interval next.id 0 [e] next) ∧
      s.Accepts 0 [e] next) ∨
      ((∃ err, Durable.issue interval id [e] next s = (.error err, s)) ∧ ¬ s.Admits 0 [e]) :=
  @write_one interval "issue" next.id 0 e next s follows

theorem checkRevisions_eq_ok {updates : List BatchedSave} {s s' : DurableStore} :
    Durable.checkRevisions updates s = (.ok (), s') ↔
      (∀ member ∈ updates, s.revision member.id = member.expected) ∧ s' = s := by
  induction updates with
  | nil =>
    constructor
    · intro h
      cases h
      simp
    · rintro ⟨_, rfl⟩
      rfl
  | cons member rest ih =>
    by_cases current : s.revision member.id = member.expected
    · have checked : Durable.checkRevision member.id member.expected s = (.ok (), s) := by
        rw [checkRevision_run, if_neg (not_not.mpr current)]
      have next : Durable.checkRevisions (member :: rest) s = Durable.checkRevisions rest s :=
        Effect.bind_ok checked
      rw [next, ih, List.forall_mem_cons]
      simp only [current, true_and]
    · have failed : Durable.checkRevisions (member :: rest) s =
          (.error (.concurrency member.expected (s.revision member.id)), s) :=
        Effect.bind_error (by rw [checkRevision_run, if_pos current])
      rw [failed, List.forall_mem_cons]
      simp [current]

theorem saveBatch_eq_ok {interval : Nat} {updates : List BatchedSave} {s s' : DurableStore} :
    Durable.saveBatch interval updates s = (.ok (), s') ↔
      (∀ member ∈ updates, s.revision member.id = member.expected) ∧
        Durable.writeMembers interval updates s = (.ok (), s') := by
  constructor
  · intro h
    obtain ⟨_, m, checked, wrote⟩ := Effect.bind_eq_ok h
    obtain ⟨current, rfl⟩ := checkRevisions_eq_ok.mp checked
    exact ⟨current, wrote⟩
  · rintro ⟨current, wrote⟩
    exact (Effect.bind_ok (checkRevisions_eq_ok.mpr ⟨current, rfl⟩)).trans wrote

/-! ### The errors of a save -/

def QueueError.OfWrite (e : QueueError) : Prop :=
  (∃ expected actual, e = .concurrency expected actual) ∨ ∃ reason, e = .storage reason

theorem errorsIn_checkRevision (id : TicketId) (expected : Nat) :
    Effect.ErrorsIn QueueError.OfWrite (Durable.checkRevision id expected) := by
  intro s e t failed
  rw [Durable.checkRevision, Effect.inspect_run, Prod.mk.injEq] at failed
  obtain ⟨failed, _⟩ := failed
  split at failed
  · cases failed
    exact .inl ⟨expected, _, rfl⟩
  · cases failed

theorem errorsIn_appendEvents (reason : String) (seq : Nat) (events : List TicketEvent) :
    Effect.ErrorsIn QueueError.OfWrite (Durable.appendEvents reason seq events) := by
  have storage : QueueError.OfWrite (.storage reason) := .inr ⟨reason, rfl⟩
  induction events generalizing seq with
  | nil => exact Effect.errorsIn_succeed ()
  | cons ev rest ih =>
    refine Effect.errorsIn_bind (Effect.errorsIn_attempt _ storage) (fun encoded => ?_)
    refine Effect.errorsIn_bind (Effect.errorsIn_exec _ storage) (fun _ => ?_)
    exact Effect.errorsIn_bind (Effect.errorsIn_exec _ storage) (fun _ => ih (seq + 1))

theorem errorsIn_writeProjection (interval : Nat) (reason : String) (id : TicketId) (next : Ticket)
    (revision : Nat) : Effect.ErrorsIn QueueError.OfWrite
      (Durable.writeProjection interval reason id next revision) := by
  have storage : QueueError.OfWrite (.storage reason) := .inr ⟨reason, rfl⟩
  refine Effect.errorsIn_bind (Effect.errorsIn_attempt _ storage) (fun payload => ?_)
  refine Effect.errorsIn_bind (Effect.errorsIn_exec _ storage) (fun _ => ?_)
  split
  · refine Effect.errorsIn_bind (Effect.errorsIn_attempt _ storage) (fun snapshot => ?_)
    exact Effect.errorsIn_exec _ storage
  · exact Effect.errorsIn_succeed ()

theorem errorsIn_save (interval : Nat) (id : TicketId) (expected : Nat) (events : List TicketEvent)
    (next : Ticket) :
    Effect.ErrorsIn QueueError.OfWrite (Durable.save interval id expected events next) := by
  refine Effect.errorsIn_bind (errorsIn_checkRevision id expected) (fun _ => ?_)
  refine Effect.errorsIn_bind (errorsIn_appendEvents "save" expected events) (fun _ => ?_)
  exact errorsIn_writeProjection interval "save" id next _

end SlotBooking
