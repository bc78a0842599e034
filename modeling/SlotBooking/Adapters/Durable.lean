import SlotBooking.Adapters.Codec
import SlotBooking.Application.Repository
import SlotBooking.Library.Table

/-! The Durable Object repository: four SQLite tables, one statement after another, and
no transaction around them. Column defaults that no query reads (`created_at`,
`updated_at`, the retry columns of the outbox) are left out. -/
namespace SlotBooking

/-! ### Tables -/

structure EventRow where
  id : TicketEventId
  ticketId : TicketId
  seq : Nat
  type : TicketEventType
  occurredAt : Instant
  recordedAt : Instant
  payload : Encoded TicketEvent
deriving DecidableEq

structure TicketRow where
  id : TicketId
  seq : Nat
  state : TicketState
  lane : Option Lane
  nameKana : Option JsString
  phoneLast4 : Option JsString
  freeText : Option JsString
  issuedAt : Instant
  calledAt : Option Instant
  servedAt : Option Instant
  cancelledAt : Option Instant
  markedAt : Option Instant
  appointmentAt : Option Instant
  checkedInAt : Option Instant
  overdueAt : Option Instant
  lastNudgedAt : Option Instant
  nudgeCount : Nat
  reason : Option String
  cancelledBy : Option Actor
  calledBy : Option Actor
  servedBy : Option Actor
  markedBy : Option Actor
  payload : Encoded Ticket
  revision : Nat
deriving DecidableEq

structure SnapshotRow where
  ticketId : TicketId
  revision : Nat
  payload : Encoded Ticket
deriving DecidableEq

structure OutboxRow where
  id : TicketEventId
  ticketId : TicketId
  payload : Encoded TicketEvent
deriving DecidableEq

/-- Each table lists its rows in the order they were inserted. -/
structure DurableStore where
  ticketEvents : List EventRow
  tickets : List TicketRow
  aggregateSnapshots : List SnapshotRow
  outbox : List OutboxRow
deriving DecidableEq

def DurableStore.empty : DurableStore := ⟨[], [], [], []⟩

def DurableStore.row (s : DurableStore) (id : TicketId) : Option TicketRow :=
  Table.find TicketRow.id id s.tickets

def DurableStore.snapshot (s : DurableStore) (id : TicketId) : Option SnapshotRow :=
  Table.find SnapshotRow.ticketId id s.aggregateSnapshots

/-! ### Rows written -/

def eventRow (seq : Nat) (payload : Encoded TicketEvent) (e : TicketEvent) : EventRow :=
  { id := e.id, ticketId := e.ticketId, seq, type := e.type, occurredAt := e.occurredAt,
    recordedAt := e.recordedAt, payload }

def outboxRow (payload : Encoded TicketEvent) (e : TicketEvent) : OutboxRow :=
  { id := e.id, ticketId := e.ticketId, payload }

def TicketVariant.call? : TicketVariant → Option CallStamp
  | .called stamp | .overdue stamp _ | .served stamp _ _ | .noShow stamp _ _ => some stamp
  | .waiting | .cancelled _ _ _ => none

def TicketVariant.overdue? : TicketVariant → Option OverdueStamp
  | .overdue _ stamp => some stamp
  | _ => none

def TicketVariant.served? : TicketVariant → Option (Instant × Actor)
  | .served _ servedAt servedBy => some (servedAt, servedBy)
  | _ => none

def TicketVariant.marked? : TicketVariant → Option (Instant × Actor)
  | .noShow _ markedAt markedBy => some (markedAt, markedBy)
  | _ => none

def TicketVariant.cancelled? : TicketVariant → Option (Instant × Actor × String)
  | .cancelled cancelledAt cancelledBy reason => some (cancelledAt, cancelledBy, reason)
  | _ => none

def ticketColumns (next : Ticket) (revision : Nat) (payload : Encoded Ticket) : TicketRow :=
  { id := next.id
    seq := next.seq
    state := next.state
    lane := some next.lane
    nameKana := some next.nameKana
    phoneLast4 := some next.phoneLast4
    freeText := next.freeText
    issuedAt := next.issuedAt
    calledAt := next.variant.call?.map CallStamp.calledAt
    servedAt := next.variant.served?.map Prod.fst
    cancelledAt := next.variant.cancelled?.map Prod.fst
    markedAt := next.variant.marked?.map Prod.fst
    appointmentAt := next.appointmentAt
    checkedInAt := next.checkedInAt
    overdueAt := next.variant.overdue?.map OverdueStamp.overdueAt
    lastNudgedAt := next.variant.overdue?.bind OverdueStamp.lastNudgedAt
    nudgeCount := (next.variant.overdue?.map OverdueStamp.nudgeCount).getD 0
    reason := next.variant.cancelled?.map (fun c => c.2.2)
    cancelledBy := next.variant.cancelled?.map (fun c => c.2.1)
    calledBy := next.variant.call?.map CallStamp.calledBy
    servedBy := next.variant.served?.map Prod.snd
    markedBy := next.variant.marked?.map Prod.snd
    payload
    revision }

/-- `ON CONFLICT(id) DO UPDATE SET …`: the columns it does not name keep their values. -/
def updateTicketRow (old excluded : TicketRow) : TicketRow :=
  { excluded with
    seq := old.seq, nameKana := old.nameKana, phoneLast4 := old.phoneLast4,
    freeText := old.freeText, issuedAt := old.issuedAt }

/-! ### Statements: no value where a constraint is violated -/

/-- `id` is the primary key and `(ticket_id, seq)` is unique. -/
def insertTicketEvent (row : EventRow) (s : DurableStore) : Option DurableStore :=
  if s.ticketEvents.any (fun r => r.id = row.id || (r.ticketId = row.ticketId && r.seq = row.seq))
  then none
  else some { s with ticketEvents := s.ticketEvents ++ [row] }

/-- `INSERT OR IGNORE` on the primary key `id`. -/
def insertOutbox (row : OutboxRow) (s : DurableStore) : DurableStore :=
  if s.outbox.any (fun r => r.id = row.id) then s else { s with outbox := s.outbox ++ [row] }

/-- `uq_tickets_handle_active` sees two different rows as duplicates; NULL equals nothing. -/
def clashesWith (row r : TicketRow) : Bool :=
  r.id ≠ row.id && r.state.isActive && row.state.isActive &&
  r.nameKana.isSome && r.nameKana = row.nameKana &&
  r.phoneLast4.isSome && r.phoneLast4 = row.phoneLast4

def upsertTicket (row : TicketRow) (s : DurableStore) : Option DurableStore :=
  let stored := Table.upserted TicketRow.id updateTicketRow row s.tickets
  if s.tickets.any (clashesWith stored) then none
  else some { s with tickets := Table.put TicketRow.id updateTicketRow row s.tickets }

def upsertSnapshot (row : SnapshotRow) (s : DurableStore) : DurableStore :=
  { s with aggregateSnapshots :=
      Table.put SnapshotRow.ticketId (fun _ excluded => excluded) row s.aggregateSnapshots }

/-! ### Reads -/

/-- The revision a save compares with; an absent row counts as 0. -/
def DurableStore.revision (s : DurableStore) (id : TicketId) : Nat :=
  match s.row id with
  | some row => row.revision
  | none => 0

/-- `SELECT payload FROM ticket_events WHERE ticket_id = ? AND seq > ? ORDER BY seq ASC`. -/
def DurableStore.eventsAfter (s : DurableStore) (id : TicketId) (base : Nat) :
    List (Encoded TicketEvent) :=
  ((s.ticketEvents.filter (fun r => r.ticketId = id && base < r.seq)).insertionSort
    (fun a b => a.seq ≤ b.seq)).map EventRow.payload

def orFail {α : Type} (e : QueueError) : Option α → Except QueueError α
  | some a => .ok a
  | none => .error e

section
variable (u : Unicode)

def foldPayloads : QueueSnapshot → List (Encoded TicketEvent) → Except QueueError QueueSnapshot
  | acc, [] => .ok acc
  | acc, payload :: rest =>
    match decodeEventRowPayload u payload with
    | none => .error (.storage "decode.event")
    | some ev => foldPayloads (applyEvent acc ev) rest

def foldTicket (base : QueueSnapshot) (id : TicketId) (revision : Nat)
    (payloads : List (Encoded TicketEvent)) : Except QueueError LoadedAggregate :=
  match foldPayloads u base payloads with
  | .error e => .error e
  | .ok acc =>
    match acc.get id with
    | none => .error .aggregateNotFound
    | some next => .ok { state := next, revision := revision + payloads.length }

namespace Durable

/-- From the snapshot and the later events; else from all events; else, for a ticket that
has neither, from the projection row. -/
def load (s : DurableStore) (id : TicketId) : Except QueueError LoadedAggregate :=
  match s.snapshot id with
  | some snap =>
    match decodeTicketRowPayload u snap.payload with
    | none => .error (.storage "decode.snapshot")
    | some base =>
      foldTicket u (QueueSnapshot.empty.set id base) id snap.revision
        (s.eventsAfter id snap.revision)
  | none =>
    if 0 < (s.eventsAfter id 0).length then
      foldTicket u QueueSnapshot.empty id 0 (s.eventsAfter id 0)
    else
      match s.row id with
      | none => .error .aggregateNotFound
      | some row =>
        match decodeTicketRowPayload u row.payload with
        | none => .error (.storage "decode.ticket")
        | some decoded => .ok { state := decoded, revision := row.revision }

/-- `SELECT payload FROM tickets ORDER BY seq ASC`, each payload decoded. -/
def listAll (s : DurableStore) : Except QueueError (List Ticket) :=
  orFail (.storage "listAll")
    ((s.tickets.insertionSort (fun a b => a.seq ≤ b.seq)).mapM
      (fun r => decodeTicketRowPayload u r.payload))

def holdsHandle (handle : CustomerHandle) (r : TicketRow) : Bool :=
  r.nameKana = some handle.nameKana && r.phoneLast4 = some handle.phoneLast4 && r.state.isActive

def findActiveByHandle (s : DurableStore) (handle : CustomerHandle) :
    Except QueueError (Option Ticket) :=
  match s.tickets.find? (holdsHandle handle) with
  | none => .ok none
  | some row =>
    orFail (.storage "findActiveByHandle") ((decodeTicketRowPayload u row.payload).map some)

/-! ### Writes -/

def nextSeq : Effect DurableStore QueueError Nat :=
  .inspect (fun s => .ok (s.tickets.foldl (fun max r => Nat.max max r.seq) 0 + 1))

/-- The event loop which `save`, `issue` and `saveBatch` share; it starts after `seq`. -/
def appendEvents (reason : String) : Nat → List TicketEvent → Effect DurableStore QueueError Unit
  | _, [] => .succeed ()
  | seq, ev :: rest => do
    let encoded ← .attempt (.storage reason) (encodeEventRowPayload ev)
    .exec (.storage reason) (insertTicketEvent (eventRow (seq + 1) encoded ev))
    .exec (.storage reason) (fun s => some (insertOutbox (outboxRow encoded ev) s))
    appendEvents reason (seq + 1) rest

/-- The projection row and, at every `interval` events, the snapshot. -/
def writeProjection (interval : Nat) (reason : String) (id : TicketId) (next : Ticket)
    (revision : Nat) : Effect DurableStore QueueError Unit := do
  let payload ← .attempt (.storage reason) (encodeTicketRowPayload next)
  .exec (.storage reason) (upsertTicket (ticketColumns next revision payload))
  if revision % interval = 0 then do
    let snapshot ← .attempt (.storage reason) (encodeTicketRowPayload next)
    .exec (.storage reason) (fun s => some (upsertSnapshot ⟨id, revision, snapshot⟩ s))
  else .succeed ()

def checkRevision (id : TicketId) (expected : Nat) : Effect DurableStore QueueError Unit :=
  .inspect (fun s =>
    if s.revision id ≠ expected then .error (.concurrency expected (s.revision id)) else .ok ())

def save (interval : Nat) (id : TicketId) (expected : Nat) (events : List TicketEvent)
    (next : Ticket) : Effect DurableStore QueueError Unit := do
  checkRevision id expected
  appendEvents "save" expected events
  writeProjection interval "save" id next (expected + events.length)

/-- The id argument of the source is not used. -/
def issue (interval : Nat) (_id : TicketId) (events : List TicketEvent) (next : Ticket) :
    Effect DurableStore QueueError Unit := do
  appendEvents "issue" 0 events
  writeProjection interval "issue" next.id next events.length

def checkRevisions : List BatchedSave → Effect DurableStore QueueError Unit
  | [] => .succeed ()
  | member :: rest => do
    checkRevision member.id member.expected
    checkRevisions rest

def writeMember (interval : Nat) (member : BatchedSave) : Effect DurableStore QueueError Unit := do
  appendEvents "saveBatch" member.expected member.events
  writeProjection interval "saveBatch" member.id member.next
    (member.expected + member.events.length)

def writeMembers (interval : Nat) : List BatchedSave → Effect DurableStore QueueError Unit
  | [] => .succeed ()
  | member :: rest => do
    writeMember interval member
    writeMembers interval rest

/-- Every revision is checked before anything is written. -/
def saveBatch (interval : Nat) (updates : List BatchedSave) :
    Effect DurableStore QueueError Unit := do
  checkRevisions updates
  writeMembers interval updates

def snapshotInterval : Nat := 200

def repository (interval : Nat) : TicketRepository DurableStore where
  load := load u
  save := save interval
  issue := issue interval
  saveBatch := saveBatch interval
  nextSeq := nextSeq
  listAll := listAll u
  findActiveByHandle := findActiveByHandle u

end Durable

end

end SlotBooking
