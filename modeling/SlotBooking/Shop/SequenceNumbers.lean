import SlotBooking.Runs.Numbers
import SlotBooking.Shop.Dispatch

/-! The queue order and the number on the wall, over all dispatches of a shop. -/
namespace SlotBooking

/-- The ticket a dispatch has issued: an issue which did not fail and was not merged. -/
def issuedBy : QueueAction → Except Rejection QueueResult → List TicketId
  | .issueTicket _ _ _ _, .ok (.ticket ticket false) => [ticket.json.id]
  | _, _ => []

section
variable (u : Unicode) (instants : InstantText)

def issuedIds : List (Ports × QueueAction) → DurableStore → List TicketId
  | [], _ => []
  | call :: calls, s =>
    issuedBy call.2 (dispatch u instants call.1 call.2 s).1 ++
      issuedIds calls (dispatch u instants call.1 call.2 s).2

variable {u instants} {s s' : DurableStore} {interval : Nat}

theorem moves_numbers (moves : Moves u interval s s') (kept : s.Kept) :
    s'.numbers = s.numbers ∧ s'.tickets.map TicketRow.id = s.tickets.map TicketRow.id := by
  have both := moves.invariant (P := fun t => t.numbers = s.numbers ∧
    t.tickets.map TicketRow.id = s.tickets.map TicketRow.id) kept ⟨rfl, rfl⟩
  apply (both _).2
  rintro t t' loaded result keptBefore ⟨numbers, keys⟩ moved
  obtain ⟨numbersNext, keysNext⟩ := moved.numbers keptBefore
  exact ⟨numbersNext.trans numbers, keysNext.trans keys⟩

theorem dispatch_numbers (kept : s.Kept) (numbered : s.Numbered) (ports : Ports)
    (action : QueueAction) :
    (dispatch u instants ports action s).2.numbers =
        s.numbers ++ numberedFrom s.tickets.length
          (issuedBy action (dispatch u instants ports action s).1) ∧
      (dispatch u instants ports action s).2.tickets.map TicketRow.id =
        s.tickets.map TicketRow.id ++ issuedBy action (dispatch u instants ports action s).1 := by
  rcases @dispatch_cases u instants s kept ports action with
    ⟨_, thrown⟩ | ⟨input, read, ends⟩ | ⟨c, read, other, moves⟩
  · have nothing : issuedBy action (.error .thrown) = [] := by cases action <;> rfl
    rw [thrown, nothing]
    simp [numberedFrom]
  · obtain ⟨lane, appointmentAt, rfl⟩ := useCase_issueTicket read rfl
    generalize dispatch u instants ports _ s = r at ends ⊢
    cases ends with
    | merged t found => simp [issuedBy, numberedFrom]
    | issued all s' step => exact step.numbers kept numbered
    | failed e => simp [issuedBy, numberedFrom]
  · have nothing : ∀ r, issuedBy action r = [] := by
      intro r
      cases action with
      | issueTicket handle freeText lane appointmentAt =>
        obtain ⟨at', _, rfl⟩ := Option.map_eq_some_iff.mp read
        exact absurd rfl (other _)
      | _ => rfl
    obtain ⟨numbers, keys⟩ := moves_numbers moves kept
    rw [nothing, numbers, keys]
    simp [numberedFrom]

theorem runDispatches_numbers (kept : s.Kept) (numbered : s.Numbered)
    (calls : List (Ports × QueueAction)) :
    (runDispatches u instants calls s).numbers =
      s.numbers ++ numberedFrom s.tickets.length (issuedIds u instants calls s) := by
  induction calls generalizing s with
  | nil => simp [runDispatches, issuedIds, numberedFrom]
  | cons call calls ih =>
    obtain ⟨numbers, keys⟩ := @dispatch_numbers u instants s kept numbered call.1 call.2
    have keptNext := (@dispatch_steps u instants s call.1 call.2 kept).kept kept
    have numberedNext := numbered.extend numbers keys
    have grown := congrArg List.length keys
    rw [List.length_map, List.length_append, List.length_map] at grown
    have later := ih keptNext numberedNext
    rw [numbers, grown, List.append_assoc, ← numberedFrom_append] at later
    exact later

end

/-- After any dispatches the tickets carry 1, 2, … in the order they were issued in, in the seq
column, as seq and as displaySeq, and so does every ticket as it loads; later dispatches only
append the tickets which they issue. -/
theorem sequence_numbers (u : Unicode) (instants : InstantText)
    (calls later : List (Ports × QueueAction)) :
    let s := runDispatches u instants calls .empty
    let s' := runDispatches u instants later s
    s.numbers = numberedFrom 0 (issuedIds u instants calls .empty) ∧
      s.numbers.map TicketNumber.seq = List.range' 1 s.numbers.length ∧
      s.numbers.map TicketNumber.displaySeq = List.range' 1 s.numbers.length ∧
      (∀ id loaded, Durable.load u s id = .ok loaded → ∃ n ∈ s.numbers, n.id = id ∧
        n.seq = loaded.state.seq ∧ n.displaySeq = loaded.state.displaySeq) ∧
      s'.numbers = s.numbers ++ numberedFrom s.numbers.length (issuedIds u instants later s) := by
  intro s s'
  have numberedEmpty : DurableStore.empty.Numbered := rfl
  have numbers := @runDispatches_numbers u instants .empty DurableStore.kept_empty numberedEmpty
    calls
  obtain ⟨kept, numbered⟩ := numbered_steps
    (@runDispatches_steps u instants .empty DurableStore.kept_empty calls)
    DurableStore.kept_empty numberedEmpty
  change s.numbers = numberedFrom 0 (issuedIds u instants calls .empty) at numbers
  refine ⟨numbers, ?_, ?_, ?_, ?_⟩
  · rw [numbers, map_numberedFrom (fun _ _ => rfl), length_numberedFrom]
  · rw [numbers, map_numberedFrom (fun _ _ => rfl), length_numberedFrom]
  · intro id loaded read
    obtain ⟨row, found, outline, _⟩ := kept.row_of_load read
    obtain ⟨inTable, rowId⟩ := Table.find_some found
    refine ⟨row.number, List.mem_map_of_mem inTable, rowId, ?_, ?_⟩
    · exact congrArg (fun t => t.seq) outline
    · exact congrArg (fun t => t.displaySeq) outline
  · have counted : s.numbers.length = s.tickets.length := List.length_map _
    rw [counted]
    exact runDispatches_numbers kept numbered later

end SlotBooking
