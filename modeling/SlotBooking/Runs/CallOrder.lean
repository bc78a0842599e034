import SlotBooking.Adapters.DurableListing
import SlotBooking.Adapters.Memory
import SlotBooking.Application.UseCases
import SlotBooking.Domain.Calling
import SlotBooking.Runs.Outcomes

/-! `CallNext` repeated until nobody waits. Every call selects anew from what the calls before
it have left, so the order in which the tickets are called is that of no single sort. -/
namespace SlotBooking

/-- `CallNext` without a lane, once for each entry of the list, each on the store the one before
has left. -/
def repeatCallNext {σ : Type} (repo : TicketRepository σ) (actor : Actor) :
    List Ports → σ → List (Except QueueError Ticket)
  | [], _ => []
  | ports :: rest, s =>
    let called := callNext repo ports none actor s
    called.1 :: repeatCallNext repo actor rest called.2

/-- The in-memory store which holds the tickets of a snapshot, in their order. -/
def MemoryStore.ofSnapshot (snap : QueueSnapshot) : MemoryStore :=
  { MemoryStore.empty with store := snap.tickets.map (fun t => ⟨t, 1⟩) }

/-- What a call makes of the ticket it takes. -/
def callOf (ports : Ports) (actor : Actor) (t : Ticket) : ApplyResult :=
  applyCall t.toTicketCommon
    { time := ports.nowInstant 1, eventId := ports.newTicketEventId 0, calledBy := some actor }

/-- Rows are filed under the id of their ticket, and no ticket that waits has a snapshot. -/
structure MemoryStore.Plain (m : MemoryStore) : Prop where
  keyed : ∀ e ∈ m.store.entries, e.2.state.id = e.1
  unsnapped : ∀ e ∈ m.store.entries, e.2.state.state = .waiting → m.snapshots.get e.1 = none

def MemoryStore.listed (m : MemoryStore) : QueueSnapshot :=
  .ofTickets (m.store.values.map MemoryRow.state)

section
variable {interval : Nat} {ports : Ports} {actor : Actor} {m : MemoryStore} {next : Ticket}

theorem MemoryStore.Plain.ids_nodup (plain : m.Plain) :
    ((m.store.values.map MemoryRow.state).map (fun t => t.id)).Nodup := by
  have keys : (m.store.values.map MemoryRow.state).map (fun t => t.id) = m.store.keys := by
    rw [InsertionMap.values, InsertionMap.keys, List.map_map, List.map_map]
    exact List.map_congr_left plain.keyed
  rw [keys]
  exact m.store.distinct

theorem MemoryStore.Plain.values_listed (plain : m.Plain) :
    m.listed.tickets.values = m.store.values.map MemoryRow.state :=
  values_ofTickets plain.ids_nodup

/-- Once the row of a ticket is replaced by a called one, everybody else still waits. -/
theorem waiting_replaced {entries : List (TicketId × MemoryRow)} {id : TicketId} {row : MemoryRow}
    (keyed : ∀ e ∈ entries, e.2.state.id = e.1) (called : row.state.isWaiting = false) :
    (((entries.map (fun e => if e.1 = id then (id, row) else e)).map Prod.snd).map
        MemoryRow.state).filter Ticket.isWaiting =
      (((entries.map Prod.snd).map MemoryRow.state).filter Ticket.isWaiting).filter
        (fun t => t.id ≠ id) := by
  induction entries with
  | nil => rfl
  | cons e rest ih =>
    have here : e.2.state.id = e.1 := keyed e List.mem_cons_self
    have later := ih (fun f mem => keyed f (List.mem_cons_of_mem e mem))
    simp only [List.map_cons, List.filter_cons] at later ⊢
    rw [later]
    by_cases same : e.1 = id
    · have left_ : e.2.state.id = id := here.trans same
      by_cases waits : e.2.state.isWaiting
      · simp [same, called, waits, left_]
      · simp [same, called, waits]
    · have kept : e.2.state.id ≠ id := fun eq => same (here.symm.trans eq)
      by_cases waits : e.2.state.isWaiting
      · simp [same, waits, kept]
      · simp [same, waits]

theorem MemoryStore.Plain.commit (plain : m.Plain) {id : TicketId} {row : MemoryRow}
    (present : id ∈ m.store.keys) (rowId : row.state.id = id)
    (called : row.state.isWaiting = false) (events : List TicketEvent) :
    (Memory.commit interval id events row m).Plain ∧
      (Memory.commit interval id events row m).listed.waiting =
        m.listed.waiting.filter (fun t => t.id ≠ id) := by
  have entries : (Memory.commit interval id events row m).store.entries = _ :=
    InsertionMap.entries_set row present
  have plain' : (Memory.commit interval id events row m).Plain := by
    constructor
    · intro e mem
      rw [entries] at mem
      obtain ⟨f, inEntries, rfl⟩ := List.mem_map.mp mem
      split
      · exact rowId
      · exact plain.keyed f inEntries
    · intro e mem waits
      rw [entries] at mem
      obtain ⟨f, inEntries, rfl⟩ := List.mem_map.mp mem
      by_cases same : f.1 = id
      · rw [if_pos same] at waits
        simp [Ticket.isWaiting, waits] at called
      · rw [if_neg same] at waits ⊢
        have before := plain.unsnapped f inEntries waits
        simp only [Memory.commit]
        split
        · rw [InsertionMap.get_set_ne _ _ same, before]
        · exact before
  refine ⟨plain', ?_⟩
  rw [QueueSnapshot.waiting, plain'.values_listed, QueueSnapshot.waiting, plain.values_listed,
    InsertionMap.values, entries]
  exact waiting_replaced plain.keyed called

theorem callNext_nobody (nobody : pickNext (m.store.values.map MemoryRow.state)
    (ports.nowInstant 0) none = some none) :
    callNext (Memory.repository interval) ports none actor m = (.error .queueEmpty, m) := by
  have ran : callNext (Memory.repository interval) ports none actor m = _ :=
    Effect.bind_ok (Effect.inspect_run _ _)
  rw [ran, nobody]
  rfl

theorem callNext_somebody (plain : m.Plain) (picked : pickNext
    (m.store.values.map MemoryRow.state) (ports.nowInstant 0) none = some (some next)) :
    ∃ m', callNext (Memory.repository interval) ports none actor m =
        (.ok (callOf ports actor next).ticket, m') ∧ m'.Plain ∧
      m'.listed.waiting = m.listed.waiting.filter (fun t => t.id ≠ next.id) := by
  obtain ⟨inSnap, waits⟩ := nextCallable_mem picked
  have inStore : next ∈ m.store.values.map MemoryRow.state := plain.values_listed ▸ inSnap
  obtain ⟨row, inValues, rfl⟩ := List.mem_map.mp inStore
  obtain ⟨⟨id, row⟩, inEntries, rfl⟩ := List.mem_map.mp inValues
  obtain ⟨⟨t, variant⟩, revision⟩ := row
  obtain rfl : t.id = id := plain.keyed _ inEntries
  have stored : m.store.get t.id = some ⟨⟨t, variant⟩, revision⟩ :=
    InsertionMap.get_of_mem inEntries
  have present : t.id ∈ m.store.keys := List.mem_map.mpr ⟨_, inEntries, rfl⟩
  have read : Memory.load m t.id = .ok ⟨⟨t, variant⟩, revision⟩ := by
    simp only [Memory.load, plain.unsnapped _ inEntries waits, stored]
  cases variant with
  | waiting =>
    let result := callOf ports actor ⟨t, .waiting⟩
    have saved : Memory.save interval t.id revision [result.event] result.ticket m =
        (.ok (), Memory.commit interval t.id [result.event] ⟨result.ticket, revision + 1⟩ m) := by
      simp only [Memory.save, stored]
      exact if_neg (fun stale => stale rfl)
    have rowId : (MemoryRow.mk result.ticket (revision + 1)).state.id = t.id := rfl
    refine ⟨_, ?_, @MemoryStore.Plain.commit interval _ plain _ _ present rowId rfl [result.event]⟩
    have ran : callNext (Memory.repository interval) ports none actor m = _ :=
      Effect.bind_ok (Effect.inspect_run _ _)
    have loaded : loadOr (Memory.repository interval) .queueEmpty t.id m = _ :=
      (Effect.inspect_run _ _).trans (congrArg (fun r => (Except.mapError _ r, m)) read)
    rw [ran, picked]
    exact (Effect.bind_ok loaded).trans (Effect.bind_ok saved)
  | _ => cases waits

theorem MemoryStore.Plain.ofSnapshot {snap : QueueSnapshot}
    (keyed : ∀ e ∈ snap.tickets.entries, e.2.id = e.1) :
    (MemoryStore.ofSnapshot snap).Plain where
  keyed := by
    intro e mem
    obtain ⟨f, inEntries, rfl⟩ := List.mem_map.mp mem
    exact keyed f inEntries
  unsnapped := fun _ _ _ => rfl

/-- Everybody in the order is called in turn, and then the queue is empty. -/
theorem repeatCallNext_eq {now : Instant} {calls : List Ports} {order : List Ticket}
    (fixed : ∀ ports ∈ calls, ports.nowInstant 0 = now) (plain : m.Plain)
    (laned : ∀ t ∈ m.listed.waiting, t.Laned)
    (reached : (now.addMinutes defaultGraceMinutes).isSome ∨ m.listed.booked = [])
    (inOrder : m.listed.callOrder (now.epochNs + defaultGraceMinutes * nsPerMinute) = order) :
    repeatCallNext (Memory.repository interval) actor calls m =
      List.zipWith (fun ports t => .ok (callOf ports actor t).ticket) calls order ++
        List.replicate (calls.length - order.length) (.error .queueEmpty) := by
  induction calls generalizing m order with
  | nil => simp [repeatCallNext]
  | cons ports calls ih =>
    have clock : ports.nowInstant 0 = now := fixed ports List.mem_cons_self
    have later : ∀ ports ∈ calls, ports.nowInstant 0 = now :=
      fun p mem => fixed p (List.mem_cons_of_mem _ mem)
    have pick : pickNext (m.store.values.map MemoryRow.state) (ports.nowInstant 0) none =
        some order.head? := by
      rw [clock, ← inOrder]
      exact nextCallable_eq_head reached
    cases order with
    | nil =>
      rw [repeatCallNext, callNext_nobody pick, ih later plain laned reached inOrder]
      simp [List.replicate_succ]
    | cons next rest =>
      obtain ⟨m', ran, plain', fewer⟩ := callNext_somebody plain pick
      have turn : (next :: rest).Perm m.listed.waiting := inOrder ▸ callOrder_perm laned _
      have chosen : m.listed.waiting.Sublist (m.store.values.map MemoryRow.state) :=
        plain.values_listed ▸ List.filter_sublist
      have distinct : ((next :: rest).map (fun t => t.id)).Nodup :=
        (turn.map _).nodup_iff.mpr (plain.ids_nodup.sublist (chosen.map _))
      have inOrder' : m'.listed.callOrder (now.epochNs + defaultGraceMinutes * nsPerMinute) =
          rest := by
        rw [callOrder_filter fewer, inOrder, filter_besides_head distinct]
      have laned' : ∀ t ∈ m'.listed.waiting, t.Laned := by
        intro t mem
        rw [fewer] at mem
        exact laned t (List.mem_filter.mp mem).1
      have reached' : (now.addMinutes defaultGraceMinutes).isSome ∨ m'.listed.booked = [] :=
        reached.imp_right (fun unbooked => by rw [booked_filter fewer, unbooked, List.filter_nil])
      rw [repeatCallNext, ran, ih later plain' laned' reached' inOrder']
      simp

end

/-- Repeated at one instant, `CallNext` takes everybody who waits: the due reservations, then the
walk-ins, then the other reservations. -/
theorem callNext_drains (interval : Nat) (actor : Actor) (snap : QueueSnapshot) (now : Instant)
    (keyed : ∀ e ∈ snap.tickets.entries, e.2.id = e.1)
    (laned : ∀ t ∈ snap.tickets.values, t.Laned)
    (distinct : (snap.tickets.values.map (fun t => t.displaySeq)).Nodup)
    (reached : (now.addMinutes defaultGraceMinutes).isSome ∨ snap.booked = []) :
    ∃ order, order.Perm snap.waiting ∧
      snap.InCallOrder (now.epochNs + defaultGraceMinutes * nsPerMinute) order ∧
      ∀ calls : List Ports, (∀ ports ∈ calls, ports.nowInstant 0 = now) →
        repeatCallNext (Memory.repository interval) actor calls (.ofSnapshot snap) =
          List.zipWith (fun ports t => .ok (callOf ports actor t).ticket) calls order ++
            List.replicate (calls.length - order.length) (.error .queueEmpty) := by
  have plain := MemoryStore.Plain.ofSnapshot keyed
  have stored : (MemoryStore.ofSnapshot snap).listed.tickets.values = snap.tickets.values := by
    rw [plain.values_listed, MemoryStore.ofSnapshot, InsertionMap.map, InsertionMap.values,
      List.map_map, List.map_map]
    rfl
  have waiting : (MemoryStore.ofSnapshot snap).listed.waiting = snap.waiting :=
    congrArg (List.filter Ticket.isWaiting) stored
  have booked : (MemoryStore.ofSnapshot snap).listed.booked = snap.booked := by
    rw [QueueSnapshot.booked, QueueSnapshot.waitingIn, waiting]
    rfl
  have lanedWaiting : ∀ t ∈ snap.waiting, t.Laned :=
    fun t mem => laned t (List.mem_filter.mp mem).1
  refine ⟨snap.callOrder _, callOrder_perm lanedWaiting _, callOrder_inCallOrder distinct _, ?_⟩
  intro calls fixed
  apply repeatCallNext_eq fixed plain (waiting ▸ lanedWaiting) (booked ▸ reached)
  rw [QueueSnapshot.callOrder, QueueSnapshot.bookedInTurn, QueueSnapshot.walkInsInTurn, booked,
    QueueSnapshot.waitingIn, waiting]
  rfl

namespace Sample

def queued (id displaySeq : Nat) (lane : Lane) (appointmentAt : Option Instant) : Ticket :=
  { issued.ticket with id := ⟨id⟩, displaySeq, lane, appointmentAt }

/-- A quarter of an hour after the epoch. -/
def quarterPast : Instant := ⟨15 * nsPerMinute, by decide⟩

def queue : QueueSnapshot :=
  .ofTickets [queued 1 1 .reservation (some quarterPast), queued 2 3 .walkIn none,
    queued 3 2 .walkIn none, queued 4 4 .reservation (some (instant 25))]

def lastInstant : Instant := ⟨nsMaxInstant, by decide⟩

def lastPorts : Ports := { ports 2 with nowInstant := fun _ => lastInstant }

def dated : QueueSnapshot := .ofTickets [queued 1 1 .reservation (some (instant 25))]

end Sample

theorem callNext_drains_sample :
    ∃ order, order.Perm Sample.queue.waiting ∧
      Sample.queue.InCallOrder
        ((Sample.instant 20).epochNs + defaultGraceMinutes * nsPerMinute) order ∧
      ∀ calls : List Ports, (∀ ports ∈ calls, ports.nowInstant 0 = Sample.instant 20) →
        repeatCallNext (Memory.repository 200) .staff calls (.ofSnapshot Sample.queue) =
          List.zipWith (fun ports t => .ok (callOf ports .staff t).ticket) calls order ++
            List.replicate (calls.length - order.length) (.error .queueEmpty) :=
  callNext_drains 200 .staff Sample.queue (Sample.instant 20) (by decide)
    (by decide) (by decide) (by decide)

example : (Sample.queue.callOrder
    ((Sample.instant 20).epochNs + defaultGraceMinutes * nsPerMinute)).map (fun t => t.id) =
      [⟨4⟩, ⟨3⟩, ⟨2⟩, ⟨1⟩] := by
  decide

/-- In the last five minutes of Temporal's range the cutoff cannot be formed, so the call throws
while a reservation waits. -/
theorem last_instant_throws :
    (∀ e ∈ Sample.dated.tickets.entries, e.2.id = e.1) ∧
      (∀ t ∈ Sample.dated.tickets.values, t.Laned) ∧
      (Sample.dated.tickets.values.map (fun t => t.displaySeq)).Nodup ∧
      ¬ ∃ order, order.Perm Sample.dated.waiting ∧
        Sample.dated.InCallOrder
          (Sample.lastInstant.epochNs + defaultGraceMinutes * nsPerMinute) order ∧
        ∀ calls : List Ports, (∀ ports ∈ calls, ports.nowInstant 0 = Sample.lastInstant) →
          repeatCallNext (Memory.repository 200) .staff calls (.ofSnapshot Sample.dated) =
            List.zipWith (fun ports t => .ok (callOf ports .staff t).ticket) calls order ++
              List.replicate (calls.length - order.length) (.error .queueEmpty) := by
  refine ⟨by decide, by decide, by decide, ?_⟩
  rintro ⟨order, everybody, _, drains⟩
  have waiting : Sample.dated.waiting.length = 1 := by decide
  have thrown : repeatCallNext (Memory.repository 200) .staff [Sample.lastPorts]
      (.ofSnapshot Sample.dated) = [.error .defect] := by decide
  obtain ⟨t, rfl⟩ := List.length_eq_one_iff.mp (everybody.length_eq.trans waiting)
  have called := drains [Sample.lastPorts] (fun ports mem => by
    rw [List.mem_singleton.mp mem]
    rfl)
  rw [thrown] at called
  simp at called

end SlotBooking
