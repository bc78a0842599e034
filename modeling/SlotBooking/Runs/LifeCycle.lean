import Mathlib.Data.Fintype.Basic
import SlotBooking.Library.Automaton
import SlotBooking.Runs.Steps

/-! The life cycle of a ticket, read off its event log over whole runs. -/
namespace SlotBooking

/-! ### The automaton -/

inductive Phase where
  | absent
  | waiting
  | serving
  | closed
deriving DecidableEq

instance : Fintype Phase :=
  Fintype.ofList [.absent, .waiting, .serving, .closed] (by intro p; cases p <;> decide)

instance : Fintype TicketEventType :=
  Fintype.ofList [.issued, .called, .servingStarted, .movedToOverdue, .nudged, .appointmentLapsed,
    .served, .noShowed, .cancelled, .recalled, .checkedIn, .rescheduled]
    (by intro a; cases a <;> decide)

def TicketState.phase : TicketState → Phase
  | .waiting => .waiting
  | .called | .overdue => .serving
  | .served | .noShow | .cancelled => .closed

def advance : Phase → TicketEventType → Option Phase
  | .absent, .issued => some .waiting
  | .waiting, .called => some .serving
  | .waiting, .checkedIn | .waiting, .rescheduled => some .waiting
  | .waiting, .appointmentLapsed | .waiting, .cancelled => some .closed
  | .serving, .movedToOverdue | .serving, .nudged | .serving, .rescheduled => some .serving
  | .serving, .recalled => some .waiting
  | .serving, .served | .serving, .noShowed | .serving, .cancelled => some .closed
  | _, _ => none

def TicketEventType.isTerminal : TicketEventType → Bool
  | .served | .noShowed | .cancelled | .appointmentLapsed => true
  | _ => false

theorem advance_absent : ∀ a p, advance .absent a = some p → a = .issued ∧ p = .waiting := by decide

theorem advance_closed : ∀ a, advance .closed a = none := by decide

theorem advance_present : ∀ a p p', p ≠ .absent → advance p a = some p' → p' ≠ .absent := by decide

theorem advance_issued : ∀ p, p ≠ .absent → advance p .issued = none := by decide

theorem advance_called : ∀ p p', advance p .called = some p' → p' = .serving := by decide

theorem advance_uncallable : ∀ a p p', a ≠ .recalled → (p = .serving ∨ p = .closed) →
    advance p a = some p' → p' = .serving ∨ p' = .closed := by decide

theorem advance_terminal : ∀ a p p', a.isTerminal = true → advance p a = some p' → p' = .closed := by
  decide

theorem word_nil_of_absent {word : List TicketEventType}
    (reads : Automaton.run advance .absent word = some .absent) : word = [] := by
  cases word with
  | nil => rfl
  | cons a rest =>
    obtain ⟨q, here, later⟩ := Option.bind_eq_some_iff.mp reads
    have entered : q ≠ .absent := by
      obtain ⟨_, rfl⟩ := advance_absent a q here
      decide
    exact absurd rfl (Automaton.run_keeps (fun a _ => advance_present a) entered later)

/-- The law of the event log of one ticket. -/
structure LifeCycle (history : List TicketEventType) : Prop where
  issued : history = [] ∨ ∃ rest, history = .issued :: rest ∧ .issued ∉ rest
  recalled : ∀ pre mid post, history = pre ++ .called :: (mid ++ .called :: post) → .recalled ∈ mid
  final : ∀ pre e post, history = pre ++ e :: post → e.isTerminal = true → post = []

theorem lifeCycle_of_run {history : List TicketEventType} {p : Phase}
    (reads : Automaton.run advance .absent history = some p) : LifeCycle history where
  issued := by
    cases history with
    | nil => exact .inl rfl
    | cons a rest =>
      right
      obtain ⟨q, here, later⟩ := Option.bind_eq_some_iff.mp reads
      obtain ⟨rfl, rfl⟩ := advance_absent a q here
      refine ⟨rest, rfl, fun mem => ?_⟩
      obtain ⟨pre, post, rfl⟩ := List.append_of_mem mem
      exact Automaton.unread_of_keeps (fun a _ => advance_present a) advance_issued (by decide) later
  recalled := by
    intro pre mid post split
    subst split
    by_contra unrecalled
    obtain ⟨q, q', _, here, later⟩ := Automaton.run_split reads
    have called : q' = .serving := advance_called q q' here
    have keeps : ∀ a ∈ mid, ∀ p p', (p = .serving ∨ p = .closed) →
        advance p a = some p' → p' = .serving ∨ p' = .closed := by
      intro a mem p p'
      exact advance_uncallable a p p' (fun same => unrecalled (same ▸ mem))
    exact Automaton.unread_of_keeps keeps (by decide) (.inl called) later
  final := by
    intro pre e post split terminal
    subst split
    obtain ⟨q, q', _, here, later⟩ := Automaton.run_split reads
    have closed : q' = .closed := advance_terminal e q q' terminal here
    subst closed
    exact Automaton.word_nil_of_stuck advance_closed later

theorem Move.advance {t : Ticket} {result : ApplyResult} (move : Move t result) :
    SlotBooking.advance t.state.phase result.event.type = some result.ticket.state.phase := by
  cases move with
  | markServed t variant stamp serving | markNoShow t variant stamp serving
  | «recall» t variant stamp serving =>
    rcases serving with rfl | ⟨overdue, rfl⟩
    · rfl
    · rfl
  | cancel t variant active =>
    cases variant with
    | waiting | called | overdue => rfl
    | served | noShow | cancelled => cases active
  | lapseAppointment t time eventId result applied =>
    obtain ⟨appointmentAt, _, rfl⟩ := applyLapseAppointment_eq_some applied
    rfl
  | reschedule t active lane target time eventId actor result applied =>
    obtain ⟨source, _, rfl⟩ := applyReschedule_eq_some applied
    obtain ⟨t, variant⟩ := t
    cases variant with
    | waiting | called | overdue => rfl
    | served | noShow | cancelled => cases active
  | _ => rfl

/-! ### Stores -/

def DurableStore.history (s : DurableStore) (id : TicketId) : List TicketEventType :=
  ((s.ticketEvents.filter (fun r => r.ticketId = id)).insertionSort
    (fun a b => a.seq ≤ b.seq)).map EventRow.type

def DurableStore.phase (s : DurableStore) (id : TicketId) : Phase :=
  match s.row id with
  | some row => row.state.phase
  | none => .absent

theorem DurableStore.Tidy.history_eq {s : DurableStore} (tidy : s.Tidy) (id : TicketId) :
    s.history id = (s.log id).map EventRow.type := by
  rw [history, ← log, tidy.sorted_log]

theorem eventRows_one_type (seq : Nat) (e : TicketEvent) :
    (eventRows seq [e]).map EventRow.type = [e.type] := rfl

section
variable {u : Unicode} {interval : Nat} {s s' : DurableStore}

/-- The log of every ticket is a word of the automaton, which ends in the phase of its row. -/
def DurableStore.Lived (s : DurableStore) : Prop :=
  ∀ id, Automaton.run advance .absent ((s.log id).map EventRow.type) = some (s.phase id)

theorem DurableStore.phase_commit (tidy : s.Tidy) {id : TicketId} {expected : Nat}
    {events : List TicketEvent} {next : Ticket} (nextId : next.id = id) :
    (s.commit interval id expected events next).phase id = next.state.phase := by
  rw [phase, row_commit tidy.ticketsKeyed nextId, if_pos rfl]
  simp only [stored_state, ticketColumns]

theorem DurableStore.Lived.commit (lived : s.Lived) (tidy : s.Tidy) {id : TicketId} {expected : Nat}
    {e : TicketEvent} {next : Ticket} (own : e.ticketId = id) (nextId : next.id = id)
    (moves : advance (s.phase id) e.type = some next.state.phase) :
    (s.commit interval id expected [e] next).Lived := by
  have owns : ∀ e' ∈ [e], e'.ticketId = id := by simpa using own
  intro other
  by_cases same : other = id
  · subst same
    rw [phase_commit tidy nextId, log_commit owns, if_pos rfl, List.map_append,
      eventRows_one_type]
    exact Automaton.run_snoc (lived other) moves
  · have frame : s.Untouched other (s.commit interval id expected [e] next) :=
      commit_untouched tidy owns nextId same
    rw [frame.log, lived other, phase, phase, frame.row]

theorem lived_steps (steps : Steps u interval s s') (kept : s.Kept) (lived : s.Lived) :
    s'.Kept ∧ s'.Lived := by
  apply steps.invariant kept lived
  · intro t t' ports input all keptBefore before issued
    obtain ⟨unrecorded, absent⟩ := issued.absent keptBefore
    have moves : advance (t.phase ports.newTicketId) .issued = some .waiting := by
      rw [DurableStore.phase, absent]
      rfl
    rw [issued.store]
    exact before.commit keptBefore.tidy rfl rfl moves
  · intro t t' loaded result keptBefore before moved
    obtain ⟨row, found, state⟩ := keptBefore.state_of_load moved.read
    have phase : t.phase loaded.state.id = loaded.state.state.phase := by
      rw [DurableStore.phase, found, ← state]
    rw [moved.store]
    apply before.commit keptBefore.tidy moved.move.event_ticketId moved.move.sameCore.id
    rw [phase]
    exact moved.move.advance

/-! ### Terminal tickets -/

theorem DurableStore.Kept.inactive_of_terminal (kept : s.Kept) {id : TicketId} {row : TicketRow}
    (found : s.row id = some row) (terminal : row.state.isTerminal = true)
    {loaded : LoadedAggregate} (read : Durable.load u s id = .ok loaded) :
    loaded.state.state.isActive = false := by
  obtain ⟨row', found', state⟩ := kept.state_of_load read
  cases Option.some.inj (found.symm.trans found')
  rw [← state, TicketState.isActive, terminal]
  rfl

theorem steps_terminal {id : TicketId} {row : TicketRow} (steps : Steps u interval s s')
    (kept : s.Kept) (found : s.row id = some row) (terminal : row.state.isTerminal = true) :
    s'.Kept ∧ s.Untouched id s' := by
  apply steps.invariant kept ⟨rfl, rfl, rfl⟩
  · intro t t' ports input all keptBefore before issued
    have present : t.row id = some row := before.row.trans found
    apply before.trans (issued.untouched keptBefore _)
    intro same
    rw [same, (issued.absent keptBefore).2] at present
    cases present
  · intro t t' loaded result keptBefore before moved
    have present : t.row id = some row := before.row.trans found
    apply before.trans (moved.untouched keptBefore _)
    intro same
    have inactive := keptBefore.inactive_of_terminal (same ▸ present) terminal moved.read
    rw [moved.move.source_active] at inactive
    cases inactive

/-- The commands on a ticket: those which name it, a batch among them. -/
def UseCase.Names (c : UseCase) (id : TicketId) : Prop :=
  c.target = some id ∨ ∃ firstId restIds actor, c = .callBatch firstId restIds actor ∧
    id ∈ firstId :: restIds

theorem Outcome.refuses_terminal {ports : Ports} {c : UseCase} {id : TicketId} {row : TicketRow}
    {r : Except QueueError Reply × DurableStore} (outcome : Outcome u interval ports s c r)
    (kept : s.Kept) (found : s.row id = some row) (terminal : row.state.isTerminal = true)
    (names : c.Names id) : ∃ e, r = (.error e, s) := by
  have inactive : ∀ loaded, Durable.load u s id = .ok loaded →
      loaded.state.state.isActive = false :=
    fun loaded => kept.inactive_of_terminal found terminal
  have unwaiting : ¬ ((Durable.repository u interval).reads s).Waits id := by
    rintro ⟨t, revision, read⟩
    cases inactive _ read
  cases outcome with
  | refused c e => exact ⟨e, rfl⟩
  | answered c reply decides =>
    rcases names with named | ⟨firstId, restIds, actor, rfl, _⟩
    · cases decides with
      | merge => cases named
      | keep input loaded read active =>
        cases named
        rw [inactive loaded read] at active
        cases active
    · cases decides
  | issued =>
    rcases names with named | ⟨firstId, restIds, actor, same, _⟩
    · cases named
    · cases same
  | moved c loaded result reply s' decides step =>
    rcases names with named | ⟨firstId, restIds, actor, rfl, _⟩
    · have active := step.move.source_active
      cases decides with
      | save c other saves loaded result read =>
        rcases saves with same | ⟨lane, actor, rfl⟩
        · cases Option.some.inj (named.symm.trans same)
          rw [inactive loaded read] at active
          cases active
        · cases named
      | checkIn other t revision appointmentAt read =>
        cases named
        cases inactive _ read
    · cases decides with
      | save c id saves => exact absurd rfl (saves.single firstId restIds actor)
  | called firstId restIds actor members s' built =>
    rcases names with named | ⟨_, _, _, same, mem⟩
    · cases named
    · cases same
      exact absurd (built.waits id mem) unwaiting
  | torn firstId restIds actor members e s' built =>
    rcases names with named | ⟨_, _, _, same, mem⟩
    · cases named
    · cases same
      exact absurd (built.waits id mem) unwaiting

end

/-- The life cycle over whole runs: the log of every ticket obeys the law, and is empty only
for a ticket which was never issued; a ticket once terminal is never changed again, and every
command on it fails. -/
theorem life_cycle (u : Unicode) (interval : Nat) (calls : List (Ports × UseCase)) (id : TicketId) :
    let s := runCalls (Durable.repository u interval) calls .empty
    LifeCycle (s.history id) ∧ (s.history id = [] ↔ s.row id = none) ∧
      ∀ row, s.row id = some row → row.state.isTerminal = true →
        ∀ later : List (Ports × UseCase),
          let s' := runCalls (Durable.repository u interval) later s
          s.Untouched id s' ∧ ∀ (ports : Ports) (c : UseCase), c.Names id →
            ∃ e, c.run (Durable.repository u interval) ports s' = (.error e, s') := by
  intro s
  have livedEmpty : DurableStore.empty.Lived := fun id => rfl
  obtain ⟨kept, lived⟩ := lived_steps (run_steps DurableStore.kept_empty calls)
    DurableStore.kept_empty livedEmpty
  refine ⟨?_, ?_, ?_⟩
  · rw [kept.tidy.history_eq id]
    exact lifeCycle_of_run (lived id)
  · rw [kept.tidy.history_eq id, List.map_eq_nil_iff]
    refine ⟨fun unrecorded => kept.row_none unrecorded, fun absent => ?_⟩
    have phase : s.phase id = .absent := by rw [DurableStore.phase, absent]
    have nothing := word_nil_of_absent (phase ▸ lived id)
    exact List.map_eq_nil_iff.mp nothing
  · intro row found terminal later s'
    obtain ⟨keptLater, untouched⟩ := steps_terminal (run_steps kept later) kept found terminal
    refine ⟨untouched, fun ports c names => ?_⟩
    exact (call_outcome keptLater ports c).refuses_terminal keptLater
      (untouched.row.trans found) terminal names

end SlotBooking
