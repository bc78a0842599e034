import SlotBooking.Adapters.DurableListing
import SlotBooking.Runs.Steps

/-! The two numbers of a ticket. One is the maximum of a column plus one, the other the
maximum over the decoded listing plus one; over every run they stay in step. -/
namespace SlotBooking

structure TicketNumber where
  id : TicketId
  column : Nat
  seq : Nat
  displaySeq : Nat

def TicketRow.number (r : TicketRow) : TicketNumber :=
  ⟨r.id, r.seq, r.payload.json.seq, r.payload.json.displaySeq⟩

def DurableStore.numbers (s : DurableStore) : List TicketNumber := s.tickets.map TicketRow.number

def numberedFrom : Nat → List TicketId → List TicketNumber
  | _, [] => []
  | n, id :: ids => ⟨id, n + 1, n + 1, n + 1⟩ :: numberedFrom (n + 1) ids

theorem numberedFrom_append (n : Nat) (xs ys : List TicketId) :
    numberedFrom n (xs ++ ys) = numberedFrom n xs ++ numberedFrom (n + xs.length) ys := by
  induction xs generalizing n with
  | nil => rfl
  | cons x xs ih =>
    have shift : n + 1 + xs.length = n + (x :: xs).length := by
      rw [List.length_cons]
      omega
    rw [List.cons_append, numberedFrom, numberedFrom, ih (n + 1), shift, List.cons_append]

@[simp] theorem length_numberedFrom (n : Nat) (ids : List TicketId) :
    (numberedFrom n ids).length = ids.length := by
  induction ids generalizing n with
  | nil => rfl
  | cons id ids ih => rw [numberedFrom, List.length_cons, ih, List.length_cons]

theorem map_numberedFrom {f : TicketNumber → Nat} (value : ∀ id k, f ⟨id, k, k, k⟩ = k) (n : Nat)
    (ids : List TicketId) : (numberedFrom n ids).map f = List.range' (n + 1) ids.length := by
  induction ids generalizing n with
  | nil => rfl
  | cons id ids ih =>
    rw [numberedFrom, List.map_cons, value, ih, List.length_cons, List.range'_succ]

theorem foldl_max_range' (n : Nat) : (List.range' 1 n).foldl Nat.max 0 = n := by
  induction n with
  | zero => rfl
  | succ n ih =>
    rw [List.range'_concat, List.foldl_append, ih]
    change max n (1 + 1 * n) = n + 1
    omega

theorem foldl_displaySeq (tickets : List Ticket) (start : Nat) :
    tickets.foldl (fun max t => if t.displaySeq > max then t.displaySeq else max) start =
      (tickets.map (fun t => t.displaySeq)).foldl Nat.max start := by
  induction tickets generalizing start with
  | nil => rfl
  | cons t tickets ih =>
    have step : (if t.displaySeq > start then t.displaySeq else start) =
        Nat.max start t.displaySeq := by
      change _ = max start t.displaySeq
      split <;> omega
    rw [List.foldl_cons, step, ih, List.map_cons, List.foldl_cons]

/-- The rows carry 1, 2, … in the order of the table, in all three places. -/
def DurableStore.Numbered (s : DurableStore) : Prop :=
  s.numbers = numberedFrom 0 (s.tickets.map TicketRow.id)

section
variable {u : Unicode} {interval : Nat} {s s' : DurableStore}

theorem DurableStore.Numbered.columns (numbered : s.Numbered) (f : TicketNumber → Nat)
    (value : ∀ id k, f ⟨id, k, k, k⟩ = k) :
    s.tickets.map (fun r => f r.number) = List.range' 1 s.tickets.length := by
  have mapped := congrArg (List.map f) numbered
  rw [map_numberedFrom value, List.length_map, DurableStore.numbers, List.map_map] at mapped
  exact mapped

theorem DurableStore.Numbered.sorted (numbered : s.Numbered) :
    s.tickets.insertionSort (fun a b => a.seq ≤ b.seq) = s.tickets := by
  have columns : s.tickets.map TicketRow.seq = List.range' 1 s.tickets.length :=
    numbered.columns TicketNumber.column (fun _ _ => rfl)
  have ascending : (s.tickets.map TicketRow.seq).Pairwise (· ≤ ·) := by
    rw [columns]
    exact List.pairwise_le_range'
  exact (List.pairwise_map.mp ascending).insertionSort_eq

theorem DurableStore.Numbered.nextSeq (numbered : s.Numbered) :
    s.tickets.foldl (fun max r => Nat.max max r.seq) 0 = s.tickets.length := by
  have columns : s.tickets.map TicketRow.seq = List.range' 1 s.tickets.length :=
    numbered.columns TicketNumber.column (fun _ _ => rfl)
  rw [← List.foldl_map, columns, foldl_max_range']

/-- A listing shows the numbers 1, 2, … in the order of the table. -/
theorem DurableStore.Numbered.displayed (numbered : s.Numbered) {all : List Ticket}
    (listed : Durable.listAll u s = .ok all) :
    all.map (fun t => t.displaySeq) = List.range' 1 s.tickets.length := by
  have decoded := listAll_eq_ok.mp listed
  rw [numbered.sorted] at decoded
  have displayed : all.map (fun t => t.displaySeq) =
      s.tickets.map (fun r => r.number.displaySeq) := by
    symm
    rw [← List.forall₂_eq_eq_eq, List.forall₂_map_left_iff, List.forall₂_map_right_iff]
    exact decoded.imp (fun r t here => (decodeTicketRowPayload_core here).2.2.1.symm)
  exact displayed.trans (numbered.columns TicketNumber.displaySeq (fun _ _ => rfl))

theorem DurableStore.Numbered.nextDisplaySeq (numbered : s.Numbered) (tidy : s.Tidy)
    {all : List Ticket} (listed : Durable.listAll u s = .ok all) :
    SlotBooking.nextDisplaySeq (.ofTickets all) = s.tickets.length + 1 := by
  rw [SlotBooking.nextDisplaySeq, values_ofTickets (listed_ids_nodup tidy listed),
    foldl_displaySeq, numbered.displayed listed, foldl_max_range']

theorem Moved.numbers {loaded : LoadedAggregate} {result : ApplyResult}
    (moved : Moved u interval s s' loaded result) (kept : s.Kept) :
    s'.numbers = s.numbers ∧ s'.tickets.map TicketRow.id = s.tickets.map TicketRow.id := by
  obtain ⟨row, found, outline, _⟩ := kept.row_of_load moved.read
  obtain ⟨inTable, rowId⟩ := Table.find_some found
  have core := moved.move.sameCore
  have present : result.ticket.id ∈ s.tickets.map TicketRow.id := by
    rw [core.id, ← rowId]
    exact List.mem_map_of_mem inTable
  have unchanged : ∀ r ∈ s.tickets, r.id = result.ticket.id →
      r.payload.json.seq = result.ticket.seq ∧
        r.payload.json.displaySeq = result.ticket.displaySeq := by
    intro r mem same
    have here : r = row := List.inj_on_of_nodup_map kept.tidy.ticketsKeyed mem inTable
      (same.trans (core.id.trans rowId.symm))
    subst here
    rw [core.seq, core.displaySeq, ← Ticket.outline_seq, ← Ticket.outline_displaySeq, outline]
    exact ⟨rfl, rfl⟩
  rw [moved.store, DurableStore.numbers, DurableStore.commit_tickets]
  refine ⟨Table.map_put_present present ?_, Table.keys_put_present
    DurableStore.keepsKey_updateTicketRow present⟩
  intro r mem same
  obtain ⟨seq, displaySeq⟩ := unchanged r mem same
  have key : r.id = result.ticket.id := same
  simp only [TicketRow.number, updateTicketRow, ticketColumns, key, seq, displaySeq]

theorem Issued.numbers {ports : Ports} {input : IssueTicketInput} {all : List Ticket}
    (issued : Issued u interval ports input s s' all) (kept : s.Kept) (numbered : s.Numbered) :
    s'.numbers = s.numbers ++ numberedFrom s.tickets.length [ports.newTicketId] ∧
      s'.tickets.map TicketRow.id = s.tickets.map TicketRow.id ++ [ports.newTicketId] := by
  have number : (ticketColumns (issueResult ports input s all).ticket 1
      ⟨(issueResult ports input s all).ticket⟩).number =
        ⟨ports.newTicketId, s.tickets.length + 1, s.tickets.length + 1, s.tickets.length + 1⟩ := by
    simp only [TicketRow.number, ticketColumns, issueResult, applyIssue, IssueTicketInput.args,
      numbered.nextSeq, numbered.nextDisplaySeq kept.tidy issued.listed]
  rw [DurableStore.numbers, issued.tickets kept, List.map_append, List.map_singleton, number,
    List.map_append]
  exact ⟨rfl, rfl⟩

theorem DurableStore.Numbered.extend (numbered : s.Numbered) {ids : List TicketId}
    (numbers : s'.numbers = s.numbers ++ numberedFrom s.tickets.length ids)
    (keys : s'.tickets.map TicketRow.id = s.tickets.map TicketRow.id ++ ids) : s'.Numbered := by
  unfold DurableStore.Numbered
  rw [numbers, keys, numbered, numberedFrom_append, List.length_map, Nat.zero_add]

theorem numbered_steps (steps : Steps u interval s s') (kept : s.Kept) (numbered : s.Numbered) :
    s'.Kept ∧ s'.Numbered := by
  apply steps.invariant kept numbered
  · intro t t' ports input all keptBefore before issued
    obtain ⟨numbers, keys⟩ := issued.numbers keptBefore before
    exact before.extend numbers keys
  · intro t t' loaded result keptBefore before moved
    obtain ⟨numbers, keys⟩ := moved.numbers keptBefore
    unfold DurableStore.Numbered
    rw [numbers, keys]
    exact before

end

end SlotBooking
