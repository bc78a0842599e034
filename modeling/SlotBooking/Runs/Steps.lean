import SlotBooking.Runs.Outcomes

/-! A run as a sequence of commits. Each is an issue or one transition of one ticket. -/
namespace SlotBooking

section
variable {u : Unicode} {interval : Nat} {s s' : DurableStore}

variable (u interval) in
inductive Step (s s' : DurableStore) : Prop where
  | issued (ports : Ports) (input : IssueTicketInput) (all : List Ticket)
      (step : Issued u interval ports input s s' all)
  | moved (loaded : LoadedAggregate) (result : ApplyResult)
      (step : Moved u interval s s' loaded result)

variable (u interval) in
abbrev Steps : DurableStore → DurableStore → Prop := Relation.ReflTransGen (Step u interval)

theorem Step.kept (step : Step u interval s s') (kept : s.Kept) : s'.Kept := by
  cases step with
  | issued ports input all step => exact step.kept kept
  | moved loaded result step => exact step.kept kept

/-- What holds at the start and survives each commit holds after the run. -/
theorem Steps.invariant {P : DurableStore → Prop} (steps : Steps u interval s s') (kept : s.Kept)
    (initial : P s)
    (issued : ∀ t t' ports input all, t.Kept → P t → Issued u interval ports input t t' all → P t')
    (moved : ∀ t t' loaded result, t.Kept → P t → Moved u interval t t' loaded result → P t') :
    s'.Kept ∧ P s' := by
  induction steps with
  | refl => exact ⟨kept, initial⟩
  | tail _ step ih =>
    obtain ⟨keptBefore, before⟩ := ih
    refine ⟨step.kept keptBefore, ?_⟩
    cases step with
    | issued ports input all step => exact issued _ _ ports input all keptBefore before step
    | moved loaded result step => exact moved _ _ loaded result keptBefore before step

theorem Steps.kept (steps : Steps u interval s s') (kept : s.Kept) : s'.Kept := by
  induction steps with
  | refl => exact kept
  | tail _ step ih => exact step.kept ih

variable (u interval) in
/-- One transition after another, and no issue. -/
abbrev Moves : DurableStore → DurableStore → Prop :=
  Relation.ReflTransGen (fun s s' => ∃ loaded result, Moved u interval s s' loaded result)

theorem called_moves (calls : Relation.ReflTransGen (Called u interval) s s') :
    Moves u interval s s' := by
  induction calls with
  | refl => exact .refl
  | tail _ call ih =>
    obtain ⟨t, revision, args, moved⟩ := call
    exact ih.tail ⟨_, _, moved⟩

theorem Moves.steps (moves : Moves u interval s s') : Steps u interval s s' := by
  induction moves with
  | refl => exact .refl
  | tail _ move ih =>
    obtain ⟨loaded, result, moved⟩ := move
    exact ih.tail (.moved loaded result moved)

theorem Moves.invariant {P : DurableStore → Prop} (moves : Moves u interval s s') (kept : s.Kept)
    (initial : P s)
    (moved : ∀ t t' loaded result, t.Kept → P t → Moved u interval t t' loaded result → P t') :
    s'.Kept ∧ P s' := by
  induction moves with
  | refl => exact ⟨kept, initial⟩
  | tail _ move ih =>
    obtain ⟨keptBefore, before⟩ := ih
    obtain ⟨loaded, result, step⟩ := move
    exact ⟨step.kept keptBefore, moved _ _ loaded result keptBefore before step⟩

theorem Outcome.moves {ports : Ports} {c : UseCase} {r : Except QueueError Reply × DurableStore}
    (outcome : Outcome u interval ports s c r) (other : ∀ input, c ≠ .issueTicket input) :
    Moves u interval s r.2 := by
  cases outcome with
  | refused | answered => exact .refl
  | issued input => exact absurd rfl (other input)
  | moved c loaded result reply s' decides step => exact .single ⟨loaded, result, step⟩
  | called firstId restIds actor members s' built steps => exact called_moves steps
  | torn firstId restIds actor members e s' built steps => exact called_moves steps

theorem Outcome.steps {ports : Ports} {c : UseCase} {r : Except QueueError Reply × DurableStore}
    (outcome : Outcome u interval ports s c r) : Steps u interval s r.2 := by
  cases outcome with
  | refused | answered => exact .refl
  | issued input all s' step => exact .single (.issued ports input all step)
  | moved c loaded result reply s' decides step => exact .single (.moved loaded result step)
  | called firstId restIds actor members s' built steps => exact (called_moves steps).steps
  | torn firstId restIds actor members e s' built steps => exact (called_moves steps).steps

theorem run_steps (kept : s.Kept) (calls : List (Ports × UseCase)) :
    Steps u interval s (runCalls (Durable.repository u interval) calls s) := by
  induction calls generalizing s with
  | nil => exact .refl
  | cons call calls ih =>
    have outcome := @call_outcome u interval s kept call.1 call.2
    exact outcome.steps.trans (ih (outcome.kept kept))

/-! ### Frames -/

/-- Nothing of one ticket has changed. -/
structure DurableStore.Untouched (id : TicketId) (s s' : DurableStore) : Prop where
  row : s'.row id = s.row id
  log : s'.log id = s.log id
  snapshot : s'.snapshot id = s.snapshot id

theorem DurableStore.Untouched.trans {id : TicketId} {s s' s'' : DurableStore}
    (first : Untouched id s s') (second : Untouched id s' s'') : Untouched id s s'' where
  row := second.row.trans first.row
  log := second.log.trans first.log
  snapshot := second.snapshot.trans first.snapshot

theorem DurableStore.Untouched.aggregate {id : TicketId} (untouched : Untouched id s s') :
    s'.aggregate id = s.aggregate id := by
  unfold DurableStore.aggregate
  rw [untouched.row, untouched.log, untouched.snapshot]

theorem DurableStore.commit_untouched (tidy : s.Tidy) {id other : TicketId} {expected : Nat}
    {events : List TicketEvent} {next : Ticket} (own : ∀ e ∈ events, e.ticketId = id)
    (nextId : next.id = id) (different : other ≠ id) :
    Untouched other s (s.commit interval id expected events next) where
  row := by rw [row_commit tidy.ticketsKeyed nextId, if_neg different]
  log := by rw [log_commit own, if_neg different]
  snapshot := by
    rw [snapshot_commit tidy.snapshotsKeyed, if_neg (fun both => different both.1)]

theorem Moved.untouched {loaded : LoadedAggregate} {result : ApplyResult}
    (moved : Moved u interval s s' loaded result) (kept : s.Kept) {other : TicketId}
    (different : other ≠ loaded.state.id) : s.Untouched other s' := by
  rw [moved.store]
  apply DurableStore.commit_untouched kept.tidy _ moved.move.sameCore.id different
  simpa using moved.move.event_ticketId

theorem Moved.changes {loaded : LoadedAggregate} {result : ApplyResult}
    (moved : Moved u interval s s' loaded result) (kept : s.Kept) :
    ¬ s.Untouched loaded.state.id s' := by
  intro untouched
  have same := untouched.aggregate
  rw [moved.aggregate kept, if_pos rfl] at same
  have length := congrArg (fun a => a.log.length) same
  simp [EventSourcing.Aggregate.commit] at length

theorem Issued.untouched {ports : Ports} {input : IssueTicketInput} {all : List Ticket}
    (issued : Issued u interval ports input s s' all) (kept : s.Kept) {other : TicketId}
    (different : other ≠ ports.newTicketId) : s.Untouched other s' := by
  rw [issued.store]
  apply DurableStore.commit_untouched kept.tidy _ rfl different
  simp [issueResult, applyIssue, baseEvent, IssueTicketInput.args]

theorem Issued.absent {ports : Ports} {input : IssueTicketInput} {all : List Ticket}
    (issued : Issued u interval ports input s s' all) (kept : s.Kept) :
    s.log ports.newTicketId = [] ∧ s.row ports.newTicketId = none := by
  have unrecorded : s.log ports.newTicketId = [] := kept.tidy.log_of_admits issued.accepts.admits
  exact ⟨unrecorded, kept.row_none unrecorded⟩

theorem Issued.aggregate {ports : Ports} {input : IssueTicketInput} {all : List Ticket}
    (issued : Issued u interval ports input s s' all) (kept : s.Kept) :
    s.aggregate ports.newTicketId = .empty ∧ s'.aggregate ports.newTicketId =
      EventSourcing.Aggregate.empty.commit interval 0 [(issueResult ports input s all).event]
        (issueResult ports input s all).ticket := by
  obtain ⟨unrecorded, absent⟩ := issued.absent kept
  have untaken : s.snapshot ports.newTicketId = none := by
    cases taken : s.snapshot ports.newTicketId with
    | none => rfl
    | some row =>
      have faithful := (kept.outlined ports.newTicketId).snapshot
      simp only [EventSourcing.Aggregate.map, DurableStore.aggregate, taken, unrecorded,
        Option.map_some, List.map_nil, List.take_nil] at faithful
      cases (faithful _ _ rfl).2
  have empty : s.aggregate ports.newTicketId = .empty := by
    simp only [DurableStore.aggregate, unrecorded, absent, untaken]
    rfl
  have own : ∀ e ∈ [(issueResult ports input s all).event], e.ticketId = ports.newTicketId := by
    simp [issueResult, applyIssue, baseEvent, IssueTicketInput.args]
  have nextId : (issueResult ports input s all).ticket.id = ports.newTicketId := rfl
  refine ⟨empty, ?_⟩
  rw [issued.store, DurableStore.aggregate_commit kept.tidy.ticketsKeyed kept.tidy.snapshotsKeyed
    own nextId, if_pos rfl, empty]

theorem Issued.tickets {ports : Ports} {input : IssueTicketInput} {all : List Ticket}
    (issued : Issued u interval ports input s s' all) (kept : s.Kept) :
    s'.tickets = s.tickets ++ [ticketColumns (issueResult ports input s all).ticket 1
      ⟨(issueResult ports input s all).ticket⟩] := by
  have absent : ports.newTicketId ∉ s.tickets.map TicketRow.id :=
    Table.find_none_iff.mp (issued.absent kept).2
  rw [issued.store, DurableStore.commit_tickets]
  exact Table.put_fresh absent

theorem DurableStore.Kept.state_of_load (kept : s.Kept) {id : TicketId} {loaded : LoadedAggregate}
    (read : Durable.load u s id = .ok loaded) :
    ∃ row, s.row id = some row ∧ row.state = loaded.state.state := by
  obtain ⟨row, found, outline, _⟩ := kept.row_of_load read
  have column := (kept.tidy.rows row (Table.find_some found).1).2
  refine ⟨row, found, ?_⟩
  rw [column, ← Ticket.outline_state, outline, Ticket.outline_state]

end

end SlotBooking
