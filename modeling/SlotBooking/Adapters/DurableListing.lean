import SlotBooking.Adapters.DurableCommit
import SlotBooking.Library.Traversal

/-! The reads which go over all rows: the listing by seq, and the lookup by handle. -/
namespace SlotBooking

section
variable {u : Unicode} {s : DurableStore}

theorem orFail_eq_ok {α : Type} {e : QueueError} {value : Option α} {a : α} :
    orFail e value = .ok a ↔ value = some a := by
  cases value <;> simp [orFail]

theorem listAll_eq_ok {all : List Ticket} :
    Durable.listAll u s = .ok all ↔
      List.Forall₂ (fun r t => decodeTicketRowPayload u r.payload = some t)
        (s.tickets.insertionSort (fun a b => a.seq ≤ b.seq)) all := by
  rw [Durable.listAll, orFail_eq_ok, Traversal.mapM_eq_some_iff]

theorem findActiveByHandle_none {handle : CustomerHandle} :
    Durable.findActiveByHandle u s handle = .ok none ↔
      s.tickets.find? (Durable.holdsHandle handle) = none := by
  unfold Durable.findActiveByHandle
  cases s.tickets.find? (Durable.holdsHandle handle) with
  | none => simp
  | some row => simp [orFail_eq_ok]

theorem findActiveByHandle_some {handle : CustomerHandle} {t : Ticket} :
    Durable.findActiveByHandle u s handle = .ok (some t) ↔
      ∃ row, s.tickets.find? (Durable.holdsHandle handle) = some row ∧
        decodeTicketRowPayload u row.payload = some t := by
  unfold Durable.findActiveByHandle
  cases s.tickets.find? (Durable.holdsHandle handle) with
  | none => simp
  | some row => simp [orFail_eq_ok]

theorem decodeTicketRowPayload_core {payload : Encoded Ticket} {t : Ticket}
    (decoded : decodeTicketRowPayload u payload = some t) :
    t.id = payload.json.id ∧ t.seq = payload.json.seq ∧
      t.displaySeq = payload.json.displaySeq ∧ t.state = payload.json.state := by
  obtain ⟨f, _, rfl⟩ := decodeTicketRowPayload_eq_some.mp decoded
  exact ⟨rfl, rfl, rfl, rfl⟩

theorem mem_listed {r : TicketRow}
    (mem : r ∈ s.tickets.insertionSort (fun a b => a.seq ≤ b.seq)) : r ∈ s.tickets :=
  (List.perm_insertionSort _ _).mem_iff.mp mem

/-- A count over the listing is one over the payloads, where no text decides. -/
theorem countP_listed {all : List Ticket} (listed : Durable.listAll u s = .ok all)
    {p : Ticket → Bool} (outlined : ∀ t q : Ticket, t.outline = q.outline → p t = p q) :
    all.countP p = s.tickets.countP (fun r => p r.payload.json) := by
  have decoded := listAll_eq_ok.mp listed
  clear listed
  rw [← (List.perm_insertionSort (fun a b : TicketRow => a.seq ≤ b.seq) s.tickets).countP_eq]
  generalize s.tickets.insertionSort (fun a b => a.seq ≤ b.seq) = rows at decoded ⊢
  induction decoded with
  | nil => rfl
  | cons here _ ih =>
    rw [List.countP_cons, List.countP_cons, ih, outlined _ _ (decodeTicketRowPayload_valid here).1]

theorem listed_payload_ids {all : List Ticket} (listed : Durable.listAll u s = .ok all) :
    all.map (fun t => t.id) = (s.tickets.insertionSort (fun a b => a.seq ≤ b.seq)).map
      (fun r => r.payload.json.id) := by
  have decoded := listAll_eq_ok.mp listed
  clear listed
  generalize s.tickets.insertionSort (fun a b => a.seq ≤ b.seq) = rows at decoded ⊢
  induction decoded with
  | nil => rfl
  | cons here _ ih => rw [List.map_cons, List.map_cons, ih, (decodeTicketRowPayload_core here).1]

/-- Where the rows are of different tickets, so are the tickets listed. -/
theorem listed_distinct (rows : (s.tickets.map (fun r => r.payload.json.id)).Nodup)
    {all : List Ticket} (listed : Durable.listAll u s = .ok all) :
    (all.map (fun t => t.id)).Nodup := by
  rw [listed_payload_ids listed]
  have permuted := List.perm_insertionSort (fun a b : TicketRow => a.seq ≤ b.seq) s.tickets
  exact (permuted.map _).nodup_iff.mpr rows

theorem DurableStore.Tidy.payload_ids (tidy : s.Tidy) :
    s.tickets.map (fun r => r.payload.json.id) = s.tickets.map TicketRow.id :=
  List.map_congr_left (fun r mem => (tidy.rows r mem).1)

theorem listed_ids_nodup (tidy : s.Tidy) {all : List Ticket}
    (listed : Durable.listAll u s = .ok all) : (all.map (fun t => t.id)).Nodup :=
  listed_distinct (tidy.payload_ids ▸ tidy.ticketsKeyed) listed

end

/-! ### Snapshots built from a listing -/

theorem values_ofTickets {tickets : List Ticket} (distinct : (tickets.map (fun t => t.id)).Nodup) :
    (QueueSnapshot.ofTickets tickets).tickets.values = tickets := by
  have keys : (tickets.map (fun t => (t.id, t))).map Prod.fst = tickets.map (fun t => t.id) := by
    rw [List.map_map]
    rfl
  unfold QueueSnapshot.ofTickets InsertionMap.values
  rw [InsertionMap.entries_ofList (by rw [keys]; exact distinct), List.map_map]
  exact List.map_id' tickets

end SlotBooking
