import SlotBooking.Domain.Positions
import SlotBooking.Runs.Recalls
import SlotBooking.Runs.Rows
import SlotBooking.Shop.Capacity
import SlotBooking.Shop.QueueViews
import SlotBooking.Shop.SequenceNumbers

/-! How the place in line of a waiting customer changes over the dispatches of a shop. -/
namespace SlotBooking

/-- Waits in the lane, with a smaller number. -/
def Ticket.waitsBefore (t : Ticket) (lane : Lane) (number : Nat) : Bool :=
  t.isWaiting && t.lane = lane && t.displaySeq < number

namespace DurableStore

variable (s : DurableStore) (id : TicketId)

def waitingBefore (lane : Lane) (number : Nat) : Nat :=
  s.tickets.countP (fun r => r.payload.json.waitsBefore lane number)

/-- The queue as the routes read it. -/
def queue : QueueSnapshot := .ofTickets s.listTickets

/-- The row of the ticket meets the condition. -/
def holds (p : Ticket → Bool) : Bool := (s.row id).any (fun r => p r.payload.json)

def waitsIn (lane : Lane) : Bool := s.holds id (fun t => t.isWaiting && t.lane = lane)

/-- Both wait in one lane, and the other one comes first. -/
def waitsBehind (other : TicketId) : Bool :=
  s.holds id (fun t => t.isWaiting && s.holds other (fun q => q.waitsBefore t.lane t.displaySeq))

end DurableStore

section
variable (u : Unicode) (instants : InstantText)

/-- `CallNext` calls somebody of the lane: of the walk-ins, or of the lane that it names. -/
def callsFrom (lane : Lane) (s : DurableStore) (call : Ports × QueueAction) : Bool :=
  match call.2 with
  | .callNext _ named =>
    (named = some lane || named = none && lane = .walkIn) &&
      s.tickets.any (fun r => s.waitsIn r.id lane &&
        (dispatched u instants s call).holds r.id (fun t => t.state = .called))
  | _ => false

/-- A recall brings somebody back ahead of the ticket. -/
def recallsAhead (id : TicketId) (s : DurableStore) (call : Ports × QueueAction) : Bool :=
  match call.2 with
  | .recall other _ =>
    !s.waitsBehind id other && (dispatched u instants s call).waitsBehind id other
  | _ => false

end

section
variable {u : Unicode} {interval : Nat} {s s' : DurableStore} {id : TicketId} {lane : Lane}
  {number : Nat} {loaded : LoadedAggregate} {result : ApplyResult}

/-! ### Counting -/

theorem waitsBefore_of_outline {t q : Ticket} (same : t.outline = q.outline) :
    t.waitsBefore lane number = q.waitsBefore lane number := by
  have state : t.state = q.state := congrArg (fun t => t.state) same
  have lanes : t.lane = q.lane := congrArg (fun t => t.lane) same
  have numbers : t.displaySeq = q.displaySeq := congrArg (fun t => t.displaySeq) same
  rw [Ticket.waitsBefore, Ticket.waitsBefore, Ticket.isWaiting, Ticket.isWaiting, state, lanes, numbers]

theorem Moved.waitingBefore (moved : Moved u interval s s' loaded result) (kept : s.Kept) :
    ∃ others, s.waitingBefore lane number =
        others + (if loaded.state.waitsBefore lane number then 1 else 0) ∧
      s'.waitingBefore lane number =
        others + (if result.ticket.waitsBefore lane number then 1 else 0) := by
  obtain ⟨front, row, back, before, after, _, outline⟩ := moved.rows kept
  refine ⟨front.countP (fun r => r.payload.json.waitsBefore lane number) +
    back.countP (fun r => r.payload.json.waitsBefore lane number), ?_, ?_⟩
  · rw [DurableStore.waitingBefore, before, List.countP_append, List.countP_cons,
      waitsBefore_of_outline outline, Nat.add_assoc]
  · rw [DurableStore.waitingBefore, after, List.countP_append, List.countP_cons, Nat.add_assoc]
    rfl

theorem Issued.waitingBefore {ports : Ports} {input : IssueTicketInput} {all : List Ticket}
    (issued : Issued u interval ports input s s' all) (kept : s.Kept) (numbered : s.Numbered)
    (small : number ≤ s.tickets.length) :
    s'.waitingBefore lane number = s.waitingBefore lane number := by
  have last : (issueResult ports input s all).ticket.waitsBefore lane number = false := by
    have next : (issueResult ports input s all).ticket.displaySeq = s.tickets.length + 1 :=
      numbered.nextDisplaySeq kept.tidy issued.listed
    have behind : ¬ s.tickets.length + 1 < number := by omega
    rw [Ticket.waitsBefore, next, decide_eq_false behind, Bool.and_false]
  rw [DurableStore.waitingBefore, issued.tickets kept, List.countP_append, List.countP_singleton]
  change _ + (if (issueResult ports input s all).ticket.waitsBefore lane number then 1 else 0) = _
  rw [last]
  rfl

end

/-! ### The pick -/

section
variable {snap : QueueSnapshot} {lane : Lane} {next t : Ticket}

/-- The head of a lane comes before all who wait there. -/
theorem headOfLane_first (heads : headOfLane snap lane = some next) (mem : t ∈ snap.tickets.values)
    (waits : t.state = .waiting) (inLane : t.lane = lane) : next.displaySeq ≤ t.displaySeq := by
  rw [headOfLane_eq] at heads
  obtain ⟨rest, sorted⟩ := List.head?_eq_some_iff.mp heads
  have order := List.pairwise_insertionSort (fun a b : Ticket => a.displaySeq ≤ b.displaySeq)
    (snap.waitingIn lane)
  have present : t ∈ (snap.waitingIn lane).insertionSort (fun a b => a.displaySeq ≤ b.displaySeq) :=
    (List.mem_insertionSort _).mpr (mem_waitingIn.mpr ⟨mem, waits, inLane⟩)
  rw [sorted] at order present
  rcases List.mem_cons.mp present with rfl | behind
  · exact Nat.le_refl _
  · exact (List.pairwise_cons.mp order).1 t behind

/-- A walk-in is only picked at the head of the walk-ins. -/
theorem nextCallable_walkIn {now : Instant} {graceMinutes : Int}
    (picked : nextCallable snap now graceMinutes = some (some next)) (walkIn : next.lane = .walkIn) :
    headOfLane snap .walkIn = some next := by
  obtain ⟨pick, _, rest⟩ := Option.bind_eq_some_iff.mp picked
  cases pick with
  | none => cases rest
  | some lane =>
    cases lane with
    | walkIn => exact Option.some.inj rest
    | reservation =>
      have first : (reservationsByDeadline snap).head? = some next := Option.some.inj rest
      rw [reservationsByDeadline_eq] at first
      have booked := mem_booked.mp (mem_bookedInTurn.mp (List.mem_of_head? first))
      cases walkIn.symm.trans booked.2.2.1

theorem pickNext_mem {all : List Ticket} {now : Instant} {named : Option Lane}
    (picked : pickNext all now named = some (some next)) :
    next ∈ (QueueSnapshot.ofTickets all).tickets.values := by
  cases named with
  | none => exact (nextCallable_mem picked).1
  | some lane =>
    have heads : headOfLane (.ofTickets all) lane = some next := Option.some.inj picked
    rw [headOfLane_eq] at heads
    exact (mem_waitingIn.mp ((List.mem_insertionSort _).mp (List.mem_of_head? heads))).1

/-- Whom `CallNext` picks from the walk-ins, or from the lane which it names. -/
theorem pickNext_head {all : List Ticket} {now : Instant} {named : Option Lane}
    (picked : pickNext all now named = some (some next))
    (asked : named = some lane ∨ named = none ∧ lane = .walkIn) (inLane : next.lane = lane) :
    headOfLane (.ofTickets all) lane = some next := by
  rcases asked with rfl | ⟨rfl, rfl⟩
  · exact Option.some.inj picked
  · exact nextCallable_walkIn picked inLane

end

section
variable {u : Unicode} {instants : InstantText} {s s' : DurableStore} {id : TicketId} {lane : Lane}
  {loaded : LoadedAggregate} {result : ApplyResult} {ports : Ports} {c : UseCase}
  {target : TicketRow}

/-- Two tickets have two numbers. -/
theorem DurableStore.Numbered.apart (numbered : s.Numbered) {r q : TicketRow} (hr : r ∈ s.tickets)
    (hq : q ∈ s.tickets)
    (same : r.payload.json.displaySeq = q.payload.json.displaySeq) : r = q := by
  have columns : s.tickets.map (fun r => r.payload.json.displaySeq) =
      List.range' 1 s.tickets.length :=
    numbered.columns TicketNumber.displaySeq (fun _ _ => rfl)
  have distinct : (s.tickets.map (fun r => r.payload.json.displaySeq)).Nodup := by
    rw [columns]
    exact List.nodup_range'
  exact List.inj_on_of_nodup_map distinct hr hq same

/-- The pick of a call comes before another ticket of its lane which waits on. -/
theorem callNext_ahead (kept : s.Kept) (numbered : s.Numbered) {named : Option Lane} {actor : Actor}
    (applies : Applies ((Durable.repository u Durable.snapshotInterval).reads s) ports
      (.callNext named actor) loaded result)
    (asked : named = some lane ∨ named = none ∧ lane = .walkIn) (inLane : loaded.state.lane = lane)
    (row : s.row id = some target) (waits : target.payload.json.state = .waiting)
    (targetLane : target.payload.json.lane = lane) (other : loaded.state.id ≠ id) :
    loaded.state.waitsBefore lane target.payload.json.displaySeq = true := by
  cases applies with
  | callNext _ _ all next t revision listed picked read =>
    have listed : Durable.listAll u s = .ok all := listed
    have ids := listed_ids_nodup kept.tidy listed
    obtain ⟨stored, found, outline, _⟩ := kept.row_of_load (kept.load_self read)
    have own : t.id = next.id := load_id kept.tidy (kept.outlined next.id) read
    have chosen := pickNext_mem picked
    rw [values_ofTickets ids] at chosen
    have inListing := (QueueSnapshot.get_ofTickets ids).mpr ⟨chosen, rfl⟩
    rw [get_listed kept.tidy listed, ← own] at inListing
    obtain ⟨r, there, decoded⟩ := Option.bind_eq_some_iff.mp inListing
    cases found.symm.trans there
    have same := Ticket.place_of_outline ((decodeTicketRowPayload_valid decoded).1.trans outline)
    have first := pickNext_head picked asked (same.1.trans inLane)
    obtain ⟨shown, inTarget, targetOutline⟩ := listed_row kept.tidy listed row
    have place := Ticket.place_of_outline targetOutline
    have waiting : shown.state = target.payload.json.state :=
      congrArg (fun t => t.state) targetOutline
    have least := headOfLane_first first (InsertionMap.mem_values_of_get inTarget)
      (waiting.trans waits) (place.1.trans targetLane)
    have numbers : t.displaySeq ≠ target.payload.json.displaySeq := by
      intro tie
      obtain ⟨inTable, key⟩ := Table.find_some found
      obtain ⟨inTable', key'⟩ := Table.find_some row
      have one := numbered.apart inTable inTable'
        ((Ticket.place_of_outline outline).2.trans tie)
      exact other (key.symm.trans ((congrArg TicketRow.id one).trans key'))
    have smaller : t.displaySeq < target.payload.json.displaySeq := by
      rw [same.2, place.2] at least
      exact lt_of_le_of_ne least numbers
    simp only [Ticket.waitsBefore, Bool.and_eq_true, decide_eq_true_eq]
    exact ⟨⟨rfl, inLane⟩, smaller⟩

/-! ### One commit -/

theorem holds_iff {p : Ticket → Bool} :
    s.holds id p = true ↔ ∃ r, s.row id = some r ∧ p r.payload.json = true :=
  Option.any_eq_true _ _

theorem waitsIn_iff : s.waitsIn id lane = true ↔ ∃ r, s.row id = some r ∧
    r.payload.json.state = .waiting ∧ r.payload.json.lane = lane := by
  simp only [DurableStore.waitsIn, holds_iff, Ticket.isWaiting, Bool.and_eq_true, decide_eq_true_eq]

theorem waitsBefore_of_core {t q : Ticket} {number : Nat} (core : t.SameCore q)
    (before : t.state = .waiting) (after : q.state = .waiting) :
    q.waitsBefore lane number = t.waitsBefore lane number := by
  simp only [Ticket.waitsBefore, Ticket.isWaiting, core.lane, core.displaySeq, before, after]

/-- A ticket which comes back to the line has been recalled. -/
theorem Applies.recalled {reads : Reads} (applies : Applies reads ports c loaded result)
    (before : loaded.state.state ≠ .waiting) (after : result.ticket.state = .waiting) :
    ∃ id actor, c = .recall id actor ∧ reads.load id = .ok loaded := by
  cases applies with
  | «recall» id actor t variant stamp revision _ read => exact ⟨id, actor, rfl, read⟩
  | callNext | callSpecific | checkIn => exact absurd rfl before
  | markServed | markNoShow | cancelTicket | moveToOverdue | nudge => cases after
  | lapseAppointment => exact absurd rfl before
  | rescheduleTicket input _ _ read admitted applied =>
    obtain ⟨_, _, rfl⟩ := applyReschedule_eq_some applied
    exact absurd after before

variable {call : Ports × QueueAction}

/-- Where a commit counts as a call from the lane, its ticket waited there. -/
theorem callsFrom_moved (moved : Moved u Durable.snapshotInterval s (dispatched u instants s call)
    loaded result) (kept : s.Kept) (counts : callsFrom u instants lane s call = true) :
    (∃ named actor, call.2 = .callNext actor named ∧
      (named = some lane ∨ named = none ∧ lane = .walkIn)) ∧
      loaded.state.lane = lane ∧ result.ticket.state = .called := by
  unfold callsFrom at counts
  split at counts
  · rename_i actor named action
    obtain ⟨asked, somebody⟩ := Bool.and_eq_true_iff.mp counts
    obtain ⟨r, _, both⟩ := List.any_eq_true.mp somebody
    obtain ⟨waits, called⟩ := Bool.and_eq_true_iff.mp both
    obtain ⟨before, row, waiting, inLane⟩ := waitsIn_iff.mp waits
    obtain ⟨after, row', state⟩ := holds_iff.mp called
    have state : after.payload.json.state = .called := of_decide_eq_true state
    refine ⟨⟨named, actor, action, by simpa using asked⟩, ?_⟩
    by_cases own : r.id = loaded.state.id
    · obtain ⟨old, found, outline, _⟩ := kept.row_of_load moved.read
      obtain ⟨new, there, payload⟩ := moved.payload kept
      rw [own] at row row'
      cases row.symm.trans found
      cases row'.symm.trans there
      exact ⟨(Ticket.place_of_outline outline).1.symm.trans inLane, payload ▸ state⟩
    · rw [(moved.untouched kept own).row, row] at row'
      cases row'
      cases waiting.symm.trans state
  · cases counts

theorem useCase_recall {other : TicketId} {actor : Actor}
    (read : call.2.useCase instants = some (.recall other actor)) :
    call.2 = .recall other actor := by
  obtain ⟨ports, action⟩ := call
  cases action <;> simp_all [QueueAction.useCase]

theorem recallsAhead_moved (moved : Moved u Durable.snapshotInterval s (dispatched u instants s call)
    loaded result) (kept : s.Kept) {actor : Actor} (action : call.2 = .recall loaded.state.id actor)
    (before : loaded.state.state ≠ .waiting) (row : s.row id = some target)
    (waits : target.payload.json.state = .waiting) (inLane : target.payload.json.lane = lane)
    (ahead : result.ticket.waitsBefore lane target.payload.json.displaySeq = true) :
    recallsAhead u instants id s call = true := by
  obtain ⟨old, found, outline, _⟩ := kept.row_of_load moved.read
  obtain ⟨new, there, payload⟩ := moved.payload kept
  have state : old.payload.json.state = loaded.state.state := congrArg (fun t => t.state) outline
  have other : id ≠ loaded.state.id := by
    rintro rfl
    cases row.symm.trans found
    exact before (state.symm.trans waits)
  have was : s.waitsBehind id loaded.state.id = false := by
    rw [Bool.eq_false_iff]
    intro behind
    obtain ⟨r, _, both⟩ := holds_iff.mp behind
    obtain ⟨q, row', first⟩ := holds_iff.mp (Bool.and_eq_true_iff.mp both).2
    cases found.symm.trans row'
    simp only [Ticket.waitsBefore, Ticket.isWaiting, Bool.and_eq_true, decide_eq_true_eq] at first
    exact before (state.symm.trans first.1.1)
  have now : (dispatched u instants s call).waitsBehind id loaded.state.id = true := by
    refine holds_iff.mpr ⟨target, (moved.untouched kept other).row.trans row, ?_⟩
    refine Bool.and_eq_true_iff.mpr ⟨decide_eq_true waits, holds_iff.mpr ⟨new, there, ?_⟩⟩
    rw [payload, inLane]
    exact ahead
  unfold recallsAhead
  rw [action]
  simp only [was, now, Bool.not_false, Bool.and_self]

/-- One transition: a call from the lane takes somebody from ahead, and only a recall brings
somebody back there. -/
theorem Moved.balanced (moved : Moved u Durable.snapshotInterval s (dispatched u instants s call)
    loaded result) (kept : s.Kept) (numbered : s.Numbered)
    (applies : Applies ((Durable.repository u Durable.snapshotInterval).reads s) call.1 c loaded
      result) (read : call.2.useCase instants = some c)
    (row : s.row id = some target) (waits : target.payload.json.state = .waiting)
    (inLane : target.payload.json.lane = lane)
    (stays : (dispatched u instants s call).waitsIn id lane = true) :
    (if callsFrom u instants lane s call then 1 else 0) +
        (dispatched u instants s call).waitingBefore lane target.payload.json.displaySeq ≤
      s.waitingBefore lane target.payload.json.displaySeq +
        if recallsAhead u instants id s call then 1 else 0 := by
  obtain ⟨others, before, after⟩ := @Moved.waitingBefore u Durable.snapshotInterval s _ lane
    target.payload.json.displaySeq loaded result moved kept
  rw [before, after]
  have core := moved.move.sameCore
  by_cases back : result.ticket.state = .waiting
  · have nobody : callsFrom u instants lane s call = false := by
      rw [Bool.eq_false_iff]
      intro counts
      cases back.symm.trans (callsFrom_moved moved kept counts).2.2
    rw [nobody]
    by_cases was : loaded.state.state = .waiting
    · rw [waitsBefore_of_core core was back]
      simp
    · have absent : loaded.state.waitsBefore lane target.payload.json.displaySeq = false := by
        simp [Ticket.waitsBefore, Ticket.isWaiting, was]
      cases ahead : result.ticket.waitsBefore lane target.payload.json.displaySeq with
      | false => simp [absent]
      | true =>
        obtain ⟨other, actor, rfl, reads⟩ := applies.recalled was back
        have own : loaded.state.id = other := load_id kept.tidy (kept.outlined other) reads
        rw [← own] at read
        rw [recallsAhead_moved moved kept (useCase_recall read) was row waits inLane ahead, absent]
        simp
  · have gone : result.ticket.waitsBefore lane target.payload.json.displaySeq = false := by
      simp [Ticket.waitsBefore, Ticket.isWaiting, back]
    rw [gone]
    cases counts : callsFrom u instants lane s call with
    | false =>
      simp only [Bool.false_eq_true, if_false]
      omega
    | true =>
      obtain ⟨⟨named, actor, action, asked⟩, fromLane, _⟩ := callsFrom_moved moved kept counts
      have other : loaded.state.id ≠ id := by
        rintro rfl
        obtain ⟨new, there, payload⟩ := moved.payload kept
        obtain ⟨r, row', waiting, _⟩ := waitsIn_iff.mp stays
        cases there.symm.trans row'
        exact back (payload ▸ waiting)
      rw [action] at read
      cases read
      rw [callNext_ahead kept numbered applies asked fromLane row waits inLane other]
      simp only [Bool.false_eq_true, if_false, if_true]
      omega

/-- A batch takes people out of the line, and brings nobody back. -/
theorem calledBy_fewer {actor : Actor} {ids : List TicketId} {number : Nat} (kept : s.Kept)
    (steps : Relation.ReflTransGen (CalledBy u Durable.snapshotInterval ports actor ids) s s') :
    s'.waitingBefore lane number ≤ s.waitingBefore lane number := by
  have both : s'.Kept ∧ s'.waitingBefore lane number ≤ s.waitingBefore lane number := by
    induction steps with
    | refl => exact ⟨kept, Nat.le_refl _⟩
    | tail _ step ih =>
      obtain ⟨keptBefore, fewer⟩ := ih
      obtain ⟨t, revision, index, _, moved⟩ := step
      obtain ⟨others, before, after⟩ := @Moved.waitingBefore u Durable.snapshotInterval _ _ lane
        number _ _ moved keptBefore
      have gone : (applyCall t (batchCallArgs ports actor index)).ticket.waitsBefore lane number =
          false := rfl
      rw [gone] at after
      refine ⟨moved.kept keptBefore, le_trans ?_ fewer⟩
      rw [before, after]
      exact Nat.le_add_right _ _
  exact both.2

theorem callsFrom_idle (same : dispatched u instants s call = s) :
    callsFrom u instants lane s call = false := by
  rw [Bool.eq_false_iff]
  intro counts
  unfold callsFrom at counts
  split at counts
  · obtain ⟨_, somebody⟩ := Bool.and_eq_true_iff.mp counts
    obtain ⟨r, _, both⟩ := List.any_eq_true.mp somebody
    obtain ⟨waits, called⟩ := Bool.and_eq_true_iff.mp both
    obtain ⟨before, row, waiting, _⟩ := waitsIn_iff.mp waits
    obtain ⟨after, row', state⟩ := holds_iff.mp called
    rw [same] at row'
    cases row.symm.trans row'
    cases waiting.symm.trans (of_decide_eq_true state)
  · cases counts

/-! ### Dispatches -/

theorem callsFrom_call (counts : callsFrom u instants lane s call = true) :
    ∃ actor named, call.2.useCase instants = some (.callNext named actor) := by
  unfold callsFrom at counts
  split at counts
  · rename_i actor named action
    exact ⟨actor, named, by rw [action]; rfl⟩
  · cases counts

theorem DurableStore.Numbered.displaySeq_le (numbered : s.Numbered) {r : TicketRow}
    (mem : r ∈ s.tickets) : r.payload.json.displaySeq ≤ s.tickets.length := by
  have columns : s.tickets.map (fun r => r.payload.json.displaySeq) =
      List.range' 1 s.tickets.length :=
    numbered.columns TicketNumber.displaySeq (fun _ _ => rfl)
  have inRange : r.payload.json.displaySeq ∈ List.range' 1 s.tickets.length := by
    rw [← columns]
    exact List.mem_map_of_mem mem
  have bounds := List.mem_range'_1.mp inRange
  omega

theorem dispatched_balanced (kept : s.Kept) (numbered : s.Numbered)
    (row : s.row id = some target) (waits : target.payload.json.state = .waiting)
    (inLane : target.payload.json.lane = lane)
    (stays : (dispatched u instants s call).waitsIn id lane = true) :
    (if callsFrom u instants lane s call then 1 else 0) +
        (dispatched u instants s call).waitingBefore lane target.payload.json.displaySeq ≤
      s.waitingBefore lane target.payload.json.displaySeq +
        if recallsAhead u instants id s call then 1 else 0 := by
  have idle : dispatched u instants s call = s → (if callsFrom u instants lane s call then 1 else 0) +
      (dispatched u instants s call).waitingBefore lane target.payload.json.displaySeq ≤
        s.waitingBefore lane target.payload.json.displaySeq +
          if recallsAhead u instants id s call then 1 else 0 := by
    intro same
    rw [callsFrom_idle same, same]
    simp only [Bool.false_eq_true, if_false]
    omega
  cases read : call.2.useCase instants with
  | none => exact idle (congrArg Prod.snd (dispatch_thrown read))
  | some c =>
    have uncounted : (∀ named actor, c ≠ .callNext named actor) →
        callsFrom u instants lane s call = false := by
      intro other
      rw [Bool.eq_false_iff]
      intro counts
      obtain ⟨actor, named, same⟩ := callsFrom_call counts
      exact other named actor (Option.some.inj (read.symm.trans same))
    have commit : Commit u Durable.snapshotInterval call.1 s c (dispatched u instants s call) := by
      rw [dispatched, dispatch_store read]
      exact call_commit kept call.1 c
    generalize after : dispatched u instants s call = s' at commit
    cases commit with
    | unchanged =>
      have same := idle after
      rwa [after] at same
    | issued input all _ step =>
      rw [uncounted (by simp),
        step.waitingBefore kept numbered (numbered.displaySeq_le (Table.find_some row).1)]
      simp only [Bool.false_eq_true, if_false]
      omega
    | moved _ loaded result _ applies step =>
      subst after
      exact step.balanced kept numbered applies read row waits inLane stays
    | called firstId restIds actor _ _ steps =>
      have fewer := @calledBy_fewer u s s' lane call.1 actor _ target.payload.json.displaySeq kept
        steps
      rw [uncounted (by simp)]
      simp only [Bool.false_eq_true, if_false]
      omega

/-! ### Places -/

theorem queue_ids (kept : s.Kept) : (s.listTickets.map (fun t => t.id)).Nodup := by
  have listed := (listTickets_perm s).map (fun t : Ticket => t.id)
  rw [listed.nodup_iff, List.map_map]
  exact kept.tidy.payload_ids ▸ kept.tidy.ticketsKeyed

/-- The place of a waiting ticket is the number of rows before it. -/
theorem positionOf_queue (kept : s.Kept) (row : s.row id = some target)
    (waits : target.payload.json.state = .waiting) :
    positionOf s.queue id = some (s.waitingBefore target.payload.json.lane
      target.payload.json.displaySeq) := by
  have ids := queue_ids kept
  obtain ⟨inTable, key⟩ := Table.find_some row
  have listed : target.payload.json ∈ s.listTickets :=
    (listTickets_perm s).mem_iff.mpr (List.mem_map_of_mem inTable)
  have found : s.queue.get id = some target.payload.json :=
    (QueueSnapshot.get_ofTickets ids).mpr ⟨listed, (kept.tidy.rows target inTable).1.trans key⟩
  have counted : aheadInLane s.queue target.payload.json =
      s.waitingBefore target.payload.json.lane target.payload.json.displaySeq := by
    rw [aheadInLane, DurableStore.queue, values_ofTickets ids, (listTickets_perm s).countP_eq,
      List.countP_map]
    rfl
  simp [positionOf, found, Ticket.isWaiting, waits, counted]

end

/-- Nobody is overtaken for long. While a customer waits in a lane, whatever else is dispatched, the
calls from the lane and the place which she has in the end come to no more than the place which she
had, and one for each recall of somebody before her. -/
theorem bounded_overtaking (u : Unicode) (instants : InstantText)
    (before during : List (Ports × QueueAction)) (id : TicketId) (lane : Lane)
    (waits : Trace.Always (dispatched u instants) (fun s => s.waitsIn id lane = true) during
      (runDispatches u instants before .empty)) :
    let s := runDispatches u instants before .empty
    let s' := runDispatches u instants during s
    ∃ n m, positionOf s.queue id = some n ∧ positionOf s'.queue id = some m ∧
      Trace.count (dispatched u instants) (callsFrom u instants lane) during s + m ≤
        n + Trace.count (dispatched u instants) (recallsAhead u instants id) during s := by
  intro s s'
  obtain ⟨kept, numbered⟩ := numbered_steps
    (@runDispatches_steps u instants .empty DurableStore.kept_empty before) DurableStore.kept_empty
    rfl
  obtain ⟨target, row, waiting, inLane⟩ := waitsIn_iff.mp (waits 0)
  -- the invariant of the run: the ticket waits on, under the number it has had
  have invariant : Trace.Always (dispatched u instants) (fun now => now.Kept ∧ now.Numbered ∧
      ∃ r, now.row id = some r ∧ r.payload.json.state = .waiting ∧ r.payload.json.lane = lane ∧
        r.payload.json.displaySeq = target.payload.json.displaySeq) during s := by
    intro n
    have steps := @runDispatches_steps u instants s kept (during.take n)
    obtain ⟨keptNow, numberedNow⟩ := numbered_steps steps kept numbered
    obtain ⟨r, there, waitingNow, inLaneNow⟩ := waitsIn_iff.mp (waits n)
    obtain ⟨r', there', _, displaySeq⟩ := place_steps steps kept row
    cases there.symm.trans there'
    exact ⟨keptNow, numberedNow, r, there, waitingNow, inLaneNow, displaySeq⟩
  have bound := Trace.balance
    (f := fun now => now.waitingBefore lane target.payload.json.displaySeq)
    (p := recallsAhead u instants id) (q := callsFrom u instants lane) invariant
    (fun call _ now here next => by
      obtain ⟨keptNow, numberedNow, r, there, waitingNow, inLaneNow, displaySeq⟩ := here
      obtain ⟨_, _, r', later, waitingLater, inLaneLater, _⟩ := next
      rw [← displaySeq]
      exact dispatched_balanced keptNow numberedNow there waitingNow inLaneNow
        (waitsIn_iff.mpr ⟨r', later, waitingLater, inLaneLater⟩))
  obtain ⟨keptEnd, _, last, there, waitingEnd, inLaneEnd, displaySeq⟩ := invariant.after
  refine ⟨_, _, positionOf_queue kept row waiting, positionOf_queue keptEnd there waitingEnd, ?_⟩
  rw [inLaneEnd, inLane, displaySeq]
  exact bound

namespace Sample

def twoInLine : List (Ports × QueueAction) :=
  [(ports 1, .issueTicket handle none none none), (ports 2, .issueTicket otherHandle none none none)]

/-- The first customer is called, comes back by a recall, and is called again. -/
def calledTwice : List (Ports × QueueAction) :=
  [(ports 3, .callNext .staff none), (ports 4, .recall ⟨1⟩ .staff), (ports 5, .callNext .staff none)]

end Sample

theorem bounded_overtaking_sample :
    let s := runDispatches Sample.unicode Sample.noInstants Sample.twoInLine .empty
    Trace.count (dispatched Sample.unicode Sample.noInstants)
      (callsFrom Sample.unicode Sample.noInstants .walkIn) Sample.calledTwice s = 2 ∧
    ∃ n m, positionOf s.queue ⟨2⟩ = some n ∧
      positionOf (runDispatches Sample.unicode Sample.noInstants Sample.calledTwice s).queue ⟨2⟩ =
        some m ∧ 2 + m ≤ n + 1 := by
  intro s
  have waits : Trace.Always (dispatched Sample.unicode Sample.noInstants)
      (fun s => s.waitsIn ⟨2⟩ .walkIn = true) Sample.calledTwice s := by
    refine Trace.always_cons.mpr ⟨by decide +kernel, Trace.always_cons.mpr ⟨by decide +kernel,
      Trace.always_cons.mpr ⟨by decide +kernel, Trace.always_nil.mpr (by decide +kernel)⟩⟩⟩
  have calls : Trace.count (dispatched Sample.unicode Sample.noInstants)
      (callsFrom Sample.unicode Sample.noInstants .walkIn) Sample.calledTwice s = 2 := by
    decide +kernel
  have recalls : Trace.count (dispatched Sample.unicode Sample.noInstants)
      (recallsAhead Sample.unicode Sample.noInstants ⟨2⟩) Sample.calledTwice s = 1 := by
    decide +kernel
  obtain ⟨n, m, first, last, bound⟩ := bounded_overtaking Sample.unicode Sample.noInstants
    Sample.twoInLine Sample.calledTwice ⟨2⟩ .walkIn waits
  rw [calls, recalls] at bound
  exact ⟨calls, n, m, first, last, bound⟩

end SlotBooking
