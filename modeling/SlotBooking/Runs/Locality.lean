import SlotBooking.Runs.Redelivery

/-! Locality of the replay. The fold keeps the tickets apart, whatever the log: only the order
of the events of one ticket matters, and a log that issues first replays to a fixed point. -/
namespace SlotBooking

/-- The log holds the given events of every ticket in their order, and no others. -/
def Interleaves (logs : TicketId → List TicketEvent) (xs : List TicketEvent) : Prop :=
  ∀ id, eventsOf id xs = logs id

/-- The first event of every ticket in the log is its issue. -/
def IssuedFirst (xs : List TicketEvent) : Prop :=
  ∀ id, ∀ e, (eventsOf id xs).head? = some e → ∃ data, e.body = .issued data

theorem get_replay_eventsOf (xs : List TicketEvent) (id : TicketId) :
    (replay xs).get id = evolveAll none (eventsOf id xs) := by
  simp [replay, get_applyMany_eventsOf]

theorem get_replay_own (xs : List TicketEvent) (id : TicketId) :
    (replay xs).get id = (replay (eventsOf id xs)).get id := by
  rw [get_replay_eventsOf, get_replay eventsOf_own]

theorem Interleaves.get_replay {logs : TicketId → List TicketEvent} {xs ys : List TicketEvent}
    (one : Interleaves logs xs) (other : Interleaves logs ys) (id : TicketId) :
    (replay xs).get id = (replay ys).get id := by
  simp only [get_replay_eventsOf, one id, other id]

/-! ### A second pass -/

theorem keys_applyMany {snap : QueueSnapshot} {events : List TicketEvent}
    (known : ∀ e ∈ events, e.ticketId ∈ snap.tickets.keys) :
    (applyMany snap events).tickets.keys = snap.tickets.keys := by
  induction events generalizing snap with
  | nil => rfl
  | cons e events ih =>
    obtain ⟨here, later⟩ := List.forall_mem_cons.mp known
    obtain ⟨prior, stored⟩ := InsertionMap.exists_get_of_mem_keys here
    have keys := keys_applyEvent stored
    exact (@ih (applyEvent snap e) (keys ▸ later)).trans keys

/-- A log which issues first leaves a ticket behind, and the same one from any start. -/
theorem IssuedFirst.settles {xs : List TicketEvent} (first : IssuedFirst xs) {id : TicketId}
    (some_event : eventsOf id xs ≠ []) :
    ∃ t, ∀ prior, evolveAll prior (eventsOf id xs) = some t := by
  cases own : eventsOf id xs with
  | nil => exact absurd own some_event
  | cons e rest =>
    obtain ⟨data, body⟩ := first id e (by rw [own]; rfl)
    obtain ⟨t, folded⟩ := evolveAll_some (issuedTicket e.ticketId e.occurredAt data) rest
    refine ⟨t, fun prior => ?_⟩
    rw [evolveAll, EventSourcing.fold_cons, evolve_issued prior body]
    exact folded

theorem IssuedFirst.known {xs : List TicketEvent} (first : IssuedFirst xs) :
    ∀ e ∈ xs, e.ticketId ∈ (replay xs).tickets.keys := by
  intro e mem
  have own : e ∈ eventsOf e.ticketId xs := List.mem_filter.mpr ⟨mem, decide_eq_true rfl⟩
  obtain ⟨t, folded⟩ := first.settles (List.ne_nil_of_mem own)
  exact QueueSnapshot.present ((get_replay_eventsOf xs e.ticketId).trans (folded none))

theorem IssuedFirst.get_again {xs : List TicketEvent} (first : IssuedFirst xs) (id : TicketId) :
    (replay (xs ++ xs)).get id = (replay xs).get id := by
  simp only [get_replay_eventsOf, eventsOf_append, evolveAll_append]
  by_cases none : eventsOf id xs = []
  · rw [none]
    rfl
  · obtain ⟨t, folded⟩ := first.settles none
    simp only [folded]

theorem IssuedFirst.replay_again {xs : List TicketEvent} (first : IssuedFirst xs) :
    replay (xs ++ xs) = replay xs := by
  have tickets : (replay (xs ++ xs)).tickets = (replay xs).tickets := by
    apply InsertionMap.ext_get
    · have passes : replay (xs ++ xs) = applyMany (replay xs) xs := List.foldl_append
      rw [passes]
      exact keys_applyMany first.known
    · exact first.get_again
  cases again : replay (xs ++ xs)
  cases once : replay xs
  rw [again, once] at tickets
  cases tickets
  rfl

/-- What a ticket replays to depends on the events of that ticket alone: two interleavings of
the same logs replay to the same map, and a log which issues first to a fixed point. -/
theorem replay_local (xs : List TicketEvent) :
    (∀ id, (replay xs).get id = (replay (eventsOf id xs)).get id) ∧
    (∀ logs, Interleaves logs xs → ∀ ys, Interleaves logs ys →
      (∀ id, (replay xs).get id = (replay ys).get id) ∧
      (replay xs).tickets.entries.Perm (replay ys).tickets.entries) ∧
    (IssuedFirst xs → replay (xs ++ xs) = replay xs) := by
  refine ⟨get_replay_own xs, ?_, IssuedFirst.replay_again⟩
  intro logs one ys other
  have same := one.get_replay other
  exact ⟨same, InsertionMap.perm_of_get same⟩

namespace Sample

def firstIssue : TicketEvent := (applyIssue issueArgs).event

def secondIssue : TicketEvent := (applyIssue { issueArgs with id := ⟨2⟩, eventId := ⟨3⟩ }).event

def inTurn : List TicketEvent := [firstIssue, secondIssue, arrival.event]

def crossed : List TicketEvent := [secondIssue, firstIssue, arrival.event]

@[simp] theorem firstIssue_id : firstIssue.ticketId = ⟨1⟩ := rfl

@[simp] theorem secondIssue_id : secondIssue.ticketId = ⟨2⟩ := rfl

@[simp] theorem arrival_id : arrival.event.ticketId = ⟨1⟩ := rfl

theorem crossed_interleaves : Interleaves (fun id => eventsOf id inTurn) crossed := by
  intro id
  by_cases first : (⟨1⟩ : TicketId) = id
  · subst first
    rfl
  · simp [eventsOf, inTurn, crossed, List.filter_cons, first]

theorem inTurn_issuedFirst : IssuedFirst inTurn := by
  intro id e first
  by_cases own : (⟨1⟩ : TicketId) = id
  · subst own
    cases first
    exact ⟨_, rfl⟩
  · simp only [eventsOf, inTurn, List.filter_cons, firstIssue_id, secondIssue_id, arrival_id, own,
      decide_false, Bool.false_eq_true, if_false, List.filter_nil] at first
    split at first
    · cases first
      exact ⟨_, rfl⟩
    · cases first

end Sample

theorem replay_local_crossed :
    (∀ id, (replay Sample.inTurn).get id = (replay Sample.crossed).get id) ∧
    replay (Sample.inTurn ++ Sample.inTurn) = replay Sample.inTurn := by
  obtain ⟨_, interleaved, again⟩ := replay_local Sample.inTurn
  exact ⟨(interleaved _ (fun _ => rfl) _ Sample.crossed_interleaves).1,
    again Sample.inTurn_issuedFirst⟩

end SlotBooking
