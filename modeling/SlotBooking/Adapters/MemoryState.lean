import SlotBooking.Adapters.Memory
import SlotBooking.Domain.Evolution

/-! What the in-memory repository holds of one ticket, and its writes as commits. -/
namespace SlotBooking

def MemoryRow.pair (row : MemoryRow) : Ticket × Nat := (row.state, row.revision)

def eventsOf (id : TicketId) (events : List TicketEvent) : List TicketEvent :=
  events.filter (fun e => e.ticketId = id)

theorem eventsOf_own {id : TicketId} {events : List TicketEvent} :
    ∀ e ∈ eventsOf id events, e.ticketId = id := by
  intro e mem
  simpa using (List.mem_filter.mp mem).2

@[simp] theorem eventsOf_append (id : TicketId) (xs ys : List TicketEvent) :
    eventsOf id (xs ++ ys) = eventsOf id xs ++ eventsOf id ys := List.filter_append ..

theorem eventsOf_self {id : TicketId} {events : List TicketEvent}
    (own : ∀ e ∈ events, e.ticketId = id) : eventsOf id events = events := by
  apply List.filter_eq_self.mpr
  simpa using own

theorem eventsOf_other {id other : TicketId} {events : List TicketEvent}
    (own : ∀ e ∈ events, e.ticketId = id) (different : other ≠ id) :
    eventsOf other events = [] := by
  apply List.filter_eq_nil_iff.mpr
  intro e mem here
  exact different ((of_decide_eq_true here).symm.trans (own e mem))

namespace MemoryStore

def aggregate (m : MemoryStore) (id : TicketId) : EventSourcing.Aggregate Ticket TicketEvent :=
  { log := eventsOf id m.events
    latest := (m.store.get id).map MemoryRow.pair
    snapshot := (m.snapshots.get id).map MemoryRow.pair }

variable {m : MemoryStore} {interval : Nat} {id : TicketId}

theorem load_eq (faithful : (m.aggregate id).Faithful evolve) :
    Memory.load m id = found ((m.aggregate id).load evolve) := by
  unfold Memory.load
  cases taken : m.snapshots.get id with
  | some snap =>
    have resumed : (m.aggregate id).load evolve =
        (evolveAll (some snap.state) ((eventsOf id m.events).drop snap.revision)).map
          (fun t => (t, snap.revision + ((eventsOf id m.events).drop snap.revision).length)) := by
      simp only [EventSourcing.Aggregate.load, aggregate, taken, Option.map_some, MemoryRow.pair]
    have own : ∀ e ∈ (eventsOf id m.events).drop snap.revision, e.ticketId = id :=
      fun e mem => eventsOf_own e (List.mem_of_mem_drop mem)
    rw [resumed]
    simp only
    rw [← eventsOf]
    split
    · rename_i nothing
      rw [List.length_eq_zero_iff.mp nothing]
      rfl
    · rw [get_applyMany _ own, QueueSnapshot.get_set_self]
      cases evolveAll (some snap.state) ((eventsOf id m.events).drop snap.revision) <;> rfl
  | none =>
    rw [faithful.load_latest, aggregate]
    cases m.store.get id <;> rfl

theorem aggregate_commit {events : List TicketEvent} {next : Ticket} {expected : Nat}
    (own : ∀ e ∈ events, e.ticketId = id) (other : TicketId) :
    (Memory.commit interval id events ⟨next, expected + events.length⟩ m).aggregate other =
      if other = id then (m.aggregate other).commit interval expected events next
      else m.aggregate other := by
  unfold aggregate Memory.commit
  by_cases same : other = id
  · subst same
    simp only [if_pos, eventsOf_append, eventsOf_self own, InsertionMap.get_set_self,
      EventSourcing.Aggregate.commit, Option.map_some, MemoryRow.pair]
    split
    · rw [InsertionMap.get_set_self]
      rfl
    · rfl
  · simp only [if_neg same, eventsOf_append, eventsOf_other own same, List.append_nil,
      InsertionMap.get_set_ne _ _ same]
    split
    · rw [InsertionMap.get_set_ne _ _ same]
    · rfl

theorem forall_aggregate_commit {P : EventSourcing.Aggregate Ticket TicketEvent → Prop}
    {events : List TicketEvent} {next : Ticket} {expected : Nat}
    (own : ∀ e ∈ events, e.ticketId = id) (before : ∀ other, P (m.aggregate other))
    (here : P ((m.aggregate id).commit interval expected events next)) (other : TicketId) :
    P ((Memory.commit interval id events ⟨next, expected + events.length⟩ m).aggregate other) := by
  rw [aggregate_commit own]
  by_cases same : other = id
  · rw [if_pos same, same]
    exact here
  · rw [if_neg same]
    exact before other

/-! ### Writes -/

theorem save_eq_ok {expected : Nat} {events : List TicketEvent} {next : Ticket}
    {m' : MemoryStore} :
    Memory.save interval id expected events next m = (.ok (), m') ↔
      (∃ state, m.store.get id = some ⟨state, expected⟩) ∧
        m' = Memory.commit interval id events ⟨next, expected + events.length⟩ m := by
  unfold Memory.save
  cases stored : m.store.get id with
  | none => simp
  | some row =>
    obtain ⟨state, revision⟩ := row
    by_cases current : revision = expected
    · subst current
      simp [eq_comm]
    · simp [current]

theorem issue_eq_ok {events : List TicketEvent} {next : Ticket} {m' : MemoryStore} :
    Memory.issue interval id events next m = (.ok (), m') ↔
      m.store.get next.id = none ∧
        m' = Memory.commit interval next.id events ⟨next, 0 + events.length⟩ m := by
  unfold Memory.issue
  rw [Nat.zero_add]
  cases stored : m.store.get next.id with
  | none => simp [eq_comm]
  | some row => simp

def commitMember (interval : Nat) (m : MemoryStore) (member : BatchedSave) : MemoryStore :=
  Memory.commit interval member.id member.events
    ⟨member.next, member.expected + member.events.length⟩ m

def withStaged (m : MemoryStore) (staged : Memory.Staged) : MemoryStore :=
  { m with
    store := staged.store
    events := m.events ++ staged.newEvents
    snapshots := staged.snapshotPatches.foldl (fun snaps p => snaps.set p.1 p.2) m.snapshots }

def Current (rows : InsertionMap TicketId MemoryRow) (updates : List BatchedSave) : Prop :=
  ∀ member ∈ updates, ∃ state, rows.get member.id = some ⟨state, member.expected⟩

theorem stage_eq_ok {rows : InsertionMap TicketId MemoryRow} {staged staged' : Memory.Staged}
    {updates : List BatchedSave} (h : Memory.stage interval rows staged updates = .ok staged') :
    Current rows updates ∧
      m.withStaged staged' = updates.foldl (commitMember interval) (m.withStaged staged) := by
  induction updates generalizing staged with
  | nil =>
    cases h
    exact ⟨by simp [Current], rfl⟩
  | cons member rest ih =>
    rw [Memory.stage] at h
    split at h
    · cases h
    · rename_i row stored
      obtain ⟨state, revision⟩ := row
      split at h
      · cases h
      · rename_i current
        obtain rfl : revision = member.expected := not_not.mp current
        obtain ⟨others, committed⟩ := ih h
        constructor
        · intro other mem
          rcases List.mem_cons.mp mem with rfl | mem
          · exact ⟨state, stored⟩
          · exact others other mem
        · rw [committed, List.foldl_cons]
          congr 1
          unfold withStaged commitMember Memory.commit
          simp only [List.append_assoc]
          split
          · rw [List.foldl_append]
            rfl
          · rfl

theorem stage_current {rows : InsertionMap TicketId MemoryRow} {updates : List BatchedSave}
    (current : Current rows updates) (staged : Memory.Staged) :
    ∃ staged', Memory.stage interval rows staged updates = .ok staged' := by
  induction updates generalizing staged with
  | nil => exact ⟨staged, rfl⟩
  | cons member rest ih =>
    obtain ⟨state, stored⟩ := current member List.mem_cons_self
    have others : Current rows rest := fun other mem => current other (List.mem_cons_of_mem _ mem)
    rw [Memory.stage, stored]
    simp only [ne_eq, not_true_eq_false, if_false]
    exact ih others _

/-- A batch whose revisions are current commits its members one after another. -/
theorem saveBatch_eq_ok {updates : List BatchedSave} {m' : MemoryStore} :
    Memory.saveBatch interval updates m = (.ok (), m') ↔
      Current m.store updates ∧ m' = updates.foldl (commitMember interval) m := by
  have start : m.withStaged ⟨m.store, [], []⟩ = m := by
    simp only [withStaged, List.append_nil, List.foldl_nil]
  unfold Memory.saveBatch
  constructor
  · intro h
    split at h
    · cases h
    · rename_i staged done
      obtain ⟨current, committed⟩ := @stage_eq_ok m interval m.store _ staged updates done
      rw [start] at committed
      cases h
      exact ⟨current, committed⟩
  · rintro ⟨current, rfl⟩
    obtain ⟨staged, done⟩ := @stage_current interval m.store updates current ⟨m.store, [], []⟩
    have committed := (@stage_eq_ok m interval m.store _ staged updates done).2
    rw [start] at committed
    rw [done, ← committed]
    rfl

end MemoryStore

end SlotBooking
