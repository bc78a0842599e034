import SlotBooking.Application.Repository

/-! The in-memory event-sourced repository: the latest row of each ticket, the log of
all events, and a snapshot row at every `interval` events. Texts are kept as given. -/
namespace SlotBooking

structure MemoryRow where
  state : Ticket
  revision : Nat
deriving DecidableEq

structure MemoryStore where
  store : InsertionMap TicketId MemoryRow
  seq : Nat
  events : List TicketEvent
  snapshots : InsertionMap TicketId MemoryRow

def MemoryStore.empty : MemoryStore := ⟨.empty, 0, [], .empty⟩

namespace Memory

def load (m : MemoryStore) (id : TicketId) : Except QueueError LoadedAggregate :=
  match m.snapshots.get id with
  | some snap =>
    let ticketEvents := m.events.filter (fun e => e.ticketId = id)
    let delta := ticketEvents.drop snap.revision
    if delta.length = 0 then .ok { state := snap.state, revision := snap.revision }
    else
      match (applyMany (QueueSnapshot.empty.set id snap.state) delta).get id with
      | none => .error .aggregateNotFound
      | some next => .ok { state := next, revision := snap.revision + delta.length }
  | none =>
    match m.store.get id with
    | none => .error .aggregateNotFound
    | some row => .ok { state := row.state, revision := row.revision }

/-- Store the row, append the events, and take a snapshot at a multiple of `interval`. -/
def commit (interval : Nat) (id : TicketId) (events : List TicketEvent) (row : MemoryRow)
    (m : MemoryStore) : MemoryStore :=
  { m with
    store := m.store.set id row
    events := m.events ++ events
    snapshots := if row.revision % interval = 0 then m.snapshots.set id row else m.snapshots }

def save (interval : Nat) (id : TicketId) (expected : Nat) (events : List TicketEvent)
    (next : Ticket) : Effect MemoryStore QueueError Unit := fun m =>
  match m.store.get id with
  | none => (.error (.concurrency expected 0), m)
  | some row =>
    if row.revision ≠ expected then (.error (.concurrency expected row.revision), m)
    else (.ok (), commit interval id events ⟨next, row.revision + events.length⟩ m)

/-- The id argument of the source is not used. -/
def issue (interval : Nat) (_id : TicketId) (events : List TicketEvent) (next : Ticket) :
    Effect MemoryStore QueueError Unit := fun m =>
  match m.store.get next.id with
  | some _ => (.error (.concurrency 0 1), m)
  | none => (.ok (), commit interval next.id events ⟨next, events.length⟩ m)

/-- What a batch stages before it commits: the copy of the rows, the new events and the
snapshots to take. Revisions are read from the rows before the batch. -/
structure Staged where
  store : InsertionMap TicketId MemoryRow
  newEvents : List TicketEvent
  snapshotPatches : List (TicketId × MemoryRow)

def stage (interval : Nat) (rows : InsertionMap TicketId MemoryRow) :
    Staged → List BatchedSave → Except QueueError Staged
  | staged, [] => .ok staged
  | staged, member :: rest =>
    match rows.get member.id with
    | none => .error (.concurrency member.expected 0)
    | some row =>
      if row.revision ≠ member.expected then
        .error (.concurrency member.expected row.revision)
      else
        let next : MemoryRow := ⟨member.next, row.revision + member.events.length⟩
        stage interval rows
          { store := staged.store.set member.id next
            newEvents := staged.newEvents ++ member.events
            snapshotPatches :=
              if next.revision % interval = 0 then staged.snapshotPatches ++ [(member.id, next)]
              else staged.snapshotPatches } rest

def saveBatch (interval : Nat) (updates : List BatchedSave) :
    Effect MemoryStore QueueError Unit := fun m =>
  match stage interval m.store ⟨m.store, [], []⟩ updates with
  | .error e => (.error e, m)
  | .ok staged => (.ok (),
      { m with
        store := staged.store
        events := m.events ++ staged.newEvents
        snapshots := staged.snapshotPatches.foldl (fun snaps p => snaps.set p.1 p.2) m.snapshots })

def nextSeq : Effect MemoryStore QueueError Nat := fun m =>
  (.ok (m.seq + 1), { m with seq := m.seq + 1 })

def listAll (m : MemoryStore) : Except QueueError (List Ticket) :=
  .ok (m.store.values.map MemoryRow.state)

def findActiveByHandle (m : MemoryStore) (handle : CustomerHandle) :
    Except QueueError (Option Ticket) :=
  let entries := m.store.entries.map (fun e => (e.1, e.2.state))
  .ok (SlotBooking.findActiveByHandle ⟨.ofList entries⟩ handle)

def repository (interval : Nat) : TicketRepository MemoryStore where
  load := load
  save := save interval
  issue := issue interval
  saveBatch := saveBatch interval
  nextSeq := nextSeq
  listAll := listAll
  findActiveByHandle := findActiveByHandle

end Memory

end SlotBooking
