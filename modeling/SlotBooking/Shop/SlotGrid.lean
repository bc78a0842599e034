import SlotBooking.Application.Rescheduling
import SlotBooking.Runs.Rows
import SlotBooking.Shop.Capacity

/-! The grid of free slots, and the guard of a reschedule. The grid counts, per slot of the
granularity asked for, the appointments within the millisecond of its start; the guard counts
the appointments of the others at the start of a slot of the configured granularity. -/
namespace SlotBooking

/-- `listTickets`: the payloads by seq, as they are stored. -/
def DurableStore.listTickets (s : DurableStore) : List Ticket :=
  (s.tickets.insertionSort (fun a b => a.seq ≤ b.seq)).map (fun r => r.payload.json)

structure SlotAvailability where
  date : PlainDate
  bucketId : Nat
  granularity : SlotGranularity
  capacity : Int
  taken : Nat
  available : Int
deriving DecidableEq

/-- `add({ days: 1 })`; no value after the last date of Temporal. -/
def PlainDate.next (date : PlainDate) : Option PlainDate :=
  if date.epochDay < 100000000 then some ⟨date.epochDay + 1⟩ else none

/-- `Date.parse` of the appointments reads the text of an instant to the millisecond. -/
def reservationStartMs (all : List Ticket) : List Int :=
  let reservations := all.filter (fun t =>
    t.lane = .reservation && t.appointmentAt.isSome && t.state.isActive)
  reservations.filterMap (fun t => t.appointmentAt.map Instant.epochMilliseconds)

section
variable (startMs : List Int) (tz : BusinessTimeZone) (capacity : Int) (g : SlotGranularity)

def slotAvailability (date : PlainDate) (bucketId : Nat) : Option SlotAvailability := do
  let interval ← intervalOf ⟨date, bucketId, g, capacity⟩ tz
  let taken := startMs.count interval.startAt.epochMilliseconds
  return {
    date, bucketId, granularity := g, capacity, taken, available := max 0 (capacity - taken) }

/-- The dates compare as texts. The fuel is never what ends the loop: it covers all dates to the
last one, after which there is no next. -/
def slotsUpTo (last : PlainDate) : Nat → PlainDate → Option (List SlotAvailability)
  | 0, _ => none
  | fuel + 1, cursor =>
    if last.text < cursor.text then some []
    else do
      let buckets ←
        (List.range (bucketsPerDay g)).mapM (slotAvailability startMs tz capacity g cursor)
      let next ← cursor.next
      let rest ← slotsUpTo last fuel next
      return buckets ++ rest

end

/-- `GET /api/v1/slots`; no value where Temporal throws. -/
def slotsRoute (all : List Ticket) (tz : BusinessTimeZone) (capacity : Int) (first last : PlainDate)
    (g : SlotGranularity) : Option (List SlotAvailability) :=
  slotsUpTo (reservationStartMs all) tz capacity g last (100000000 - first.epochDay).toNat.succ
    first

/-! ### The two counts -/

namespace DurableStore

variable (s : DurableStore)

end DurableStore

section
variable {all : List Ticket} {startMs : List Int} {tz : BusinessTimeZone} {capacity : Int}
  {g : SlotGranularity} {row : SlotAvailability}

end

section
variable {u : Unicode} {instants : InstantText} {s : DurableStore} {tz : BusinessTimeZone}
  {capacity : Int} {g : SlotGranularity}

end

/-! ### Where both look at the same appointments -/

section
variable {s : DurableStore} {tz : BusinessTimeZone} {capacity : Int} {g : SlotGranularity}

end

namespace Sample

/-- Minutes after the epoch. -/
def minute (n : Nat) : Instant := ⟨(n % 1440 : Nat) * nsPerMinute, by
  unfold nsPerMinute nsMaxInstant
  omega⟩

/-- Staff moves the second one. -/
def move (n : Nat) (configured : SlotGranularity) : QueueAction :=
  .rescheduleTicket ⟨2⟩ (InstantText.iso.encode (minute n)) configured utc 1 .staff none

theorem reschedulable {s : DurableStore} {input : RescheduleTicketInput} {source : Instant}
    (staff : input.handle = none)
    (loads : (match Durable.load unicode s input.ticketId with
      | .ok loaded => decide (loaded.state.state.isActive ∧ loaded.state.lane = .reservation ∧
          loaded.state.appointmentAt = some source)
      | .error _ => false) = true) :
    ∃ loaded, Reschedulable ((Durable.repository unicode Durable.snapshotInterval).reads s) input
      loaded source := by
  cases read : Durable.load unicode s input.ticketId with
  | error e =>
    rw [read] at loads
    cases loads
  | ok loaded =>
    rw [read] at loads
    obtain ⟨active, lane, booked⟩ := of_decide_eq_true loads
    refine ⟨loaded, read, ?_, active, lane, booked⟩
    intro given some_
    rw [staff] at some_
    cases some_

end Sample

end SlotBooking
