import SlotBooking.Domain.Calling
import SlotBooking.Domain.Lockstep

/-! Positions. A count over the tickets of a snapshot says how many calls a ticket is away from
its own, though every call selects its ticket anew. -/
namespace SlotBooking

def matchesLane (ticketLane : Lane) : Option Lane → Bool
  | none => true
  | some filter => ticketLane = filter

def waitingCount (snap : QueueSnapshot) (lane : Option Lane) : Nat :=
  snap.tickets.values.countP (fun t => t.isWaiting && matchesLane t.lane lane)

/-- The Waiting tickets of the target's lane with a smaller `displaySeq`. -/
def aheadInLane (snap : QueueSnapshot) (target : Ticket) : Nat :=
  snap.tickets.values.countP
    (fun t => t.isWaiting && t.lane = target.lane && t.displaySeq < target.displaySeq)

/-- The place within the lane, where 0 is next. -/
def positionOf (snap : QueueSnapshot) (ticketId : TicketId) : Option Nat :=
  match snap.get ticketId with
  | none => none
  | some target => if !target.isWaiting then none else some (aheadInLane snap target)

/-- The place over the chain of lanes: all who wait in the lanes before, and those ahead. -/
def globalPositionOf (snap : QueueSnapshot) (ticketId : TicketId) : Option Nat :=
  match snap.get ticketId with
  | none => none
  | some target =>
    if !target.isWaiting then none
    else some ((preferredLaneChain.takeWhile (fun lane => lane ≠ target.lane)).foldl
      (fun ahead lane => ahead + waitingCount snap (some lane)) 0 + aheadInLane snap target)

/-- The snapshot once a ticket of it has been called. -/
def afterCall (snap : QueueSnapshot) (t : Ticket) (args : CallArgs) : QueueSnapshot :=
  applyEvent snap (applyCall t.toTicketCommon args).event

/-- The head of the queue is called again and again; who is called, in order. -/
def callHeads : List CallArgs → QueueSnapshot → List Ticket
  | [], _ => []
  | args :: rest, snap =>
    match head snap none with
    | none => []
    | some t => t :: callHeads rest (afterCall snap t args)

namespace QueueSnapshot

variable (snap : QueueSnapshot)

def inTurn (lane : Lane) : List Ticket :=
  (snap.waitingIn lane).insertionSort (fun a b => a.displaySeq ≤ b.displaySeq)

/-- One lane after the other, each in turn. -/
def headOrder : List Ticket := preferredLaneChain.flatMap snap.inTurn

end QueueSnapshot

section
variable {snap : QueueSnapshot} {t : Ticket} {args : CallArgs} {lane : Lane}

/-! ### Counts and turns -/

theorem mem_inTurn : t ∈ snap.inTurn lane ↔
    t ∈ snap.tickets.values ∧ t.state = .waiting ∧ t.lane = lane := by
  rw [QueueSnapshot.inTurn, List.mem_insertionSort, mem_waitingIn]

theorem inTurn_strict (distinct : (snap.waiting.map (fun t => t.displaySeq)).Nodup) (lane : Lane) :
    (snap.inTurn lane).Pairwise (fun a b => a.displaySeq < b.displaySeq) :=
  (Selection.stablySorted_insertionSort (fun t : Ticket => t.displaySeq)
    (snap.waitingIn lane)).strict (distinct.sublist (List.filter_sublist.map _))

theorem aheadInLane_eq (snap : QueueSnapshot) (t : Ticket) : aheadInLane snap t =
    (snap.inTurn t.lane).countP (fun q => q.displaySeq < t.displaySeq) := by
  rw [QueueSnapshot.inTurn, (List.perm_insertionSort _ _).countP_eq, QueueSnapshot.waitingIn,
    QueueSnapshot.waiting, List.filter_filter, List.countP_filter, aheadInLane]
  congr 1
  funext q
  simp [Bool.and_comm, Bool.and_left_comm]

theorem waitingCount_eq (snap : QueueSnapshot) (lane : Lane) :
    waitingCount snap (some lane) = (snap.inTurn lane).length := by
  rw [QueueSnapshot.inTurn, List.length_insertionSort, QueueSnapshot.waitingIn,
    QueueSnapshot.waiting, List.filter_filter, ← List.countP_eq_length_filter, waitingCount]
  congr 1
  funext q
  simp [matchesLane, Bool.and_comm]

theorem positionOf_waiting (found : snap.get t.id = some t) (waits : t.state = .waiting) :
    positionOf snap t.id =
      some ((snap.inTurn t.lane).countP (fun q => q.displaySeq < t.displaySeq)) := by
  simp [positionOf, found, Ticket.isWaiting, waits, aheadInLane_eq]

/-- The place in the whole order is the count of the lanes before and of those ahead. -/
theorem globalPositionOf_waiting (distinct : (snap.waiting.map (fun t => t.displaySeq)).Nodup)
    (found : snap.get t.id = some t) (waits : t.state = .waiting) :
    ∃ n, globalPositionOf snap t.id = some n ∧ snap.headOrder[n]? = some t := by
  have mem : t ∈ snap.inTurn t.lane :=
    mem_inTurn.mpr ⟨InsertionMap.mem_values_of_get found, waits, rfl⟩
  have place := Selection.getElem_countP_lt (inTurn_strict distinct t.lane) mem
  rw [← aheadInLane_eq] at place
  have bounded := (List.getElem?_eq_some_iff.mp place).1
  refine ⟨_, by simp only [globalPositionOf, found, Ticket.isWaiting, waits]; rfl, ?_⟩
  cases lane : t.lane with
  | walkIn =>
    rw [lane] at place bounded
    have order : snap.headOrder = snap.inTurn .walkIn ++ snap.inTurn .reservation := by
      simp [QueueSnapshot.headOrder, preferredLaneChain]
    simpa [preferredLaneChain, order, List.getElem?_append_left bounded] using place
  | reservation =>
    rw [lane] at place
    have order : snap.headOrder = snap.inTurn .walkIn ++ snap.inTurn .reservation := by
      simp [QueueSnapshot.headOrder, preferredLaneChain]
    simpa [preferredLaneChain, order, waitingCount_eq, List.getElem?_append_right] using place

/-! ### The head -/

theorem head_eq (snap : QueueSnapshot) : head snap none = snap.headOrder.head? := by
  have chain : ∀ lanes : List Lane,
      (lanes.find? (fun lane => (headOfLane snap lane).isSome)).bind (headOfLane snap) =
        (lanes.flatMap snap.inTurn).head? := by
    intro lanes
    induction lanes with
    | nil => rfl
    | cons lane lanes ih =>
      have first : headOfLane snap lane = (snap.inTurn lane).head? := headOfLane_eq lane
      rw [List.flatMap_cons, List.head?_append, ← first, ← ih]
      cases here : headOfLane snap lane <;> simp [here]
  exact chain preferredLaneChain

theorem headOrder_perm (snap : QueueSnapshot) : snap.headOrder.Perm snap.waiting := by
  have order : snap.headOrder = snap.inTurn .walkIn ++ snap.inTurn .reservation := by
    simp [QueueSnapshot.headOrder, preferredLaneChain]
  have other : snap.waitingIn .reservation =
      snap.waiting.filter (fun t => !decide (t.lane = .walkIn)) := by
    apply List.filter_congr
    intro t _
    cases t.lane <;> rfl
  rw [order]
  refine ((List.perm_insertionSort _ _).append (List.perm_insertionSort _ _)).trans ?_
  rw [other]
  exact List.filter_append_perm _ _

theorem waiting_ids_nodup (keyed : snap.Keyed) : (snap.waiting.map (fun t => t.id)).Nodup := by
  have keys : snap.tickets.values.map (fun t => t.id) = snap.tickets.keys := by
    rw [InsertionMap.values, InsertionMap.keys, List.map_map]
    exact List.map_congr_left (fun e mem => keyed e.1 e.2 (InsertionMap.get_of_mem mem))
  have distinct : (snap.tickets.values.map (fun t => t.id)).Nodup := by
    rw [keys]
    exact snap.tickets.distinct
  exact distinct.sublist (List.filter_sublist.map _)

/-! ### One call -/

theorem evolve_applyCall (waits : t.state = .waiting) (args : CallArgs) :
    evolve (some t) (applyCall t.toTicketCommon args).event =
      some (applyCall t.toTicketCommon args).ticket := by
  obtain ⟨t, variant⟩ := t
  cases variant with
  | waiting => exact (Move.call t args).evolve_eq (fun other => by cases other)
  | _ => cases waits

theorem afterCall_eq (found : snap.get t.id = some t) (waits : t.state = .waiting)
    (args : CallArgs) :
    afterCall snap t args = snap.set t.id (applyCall t.toTicketCommon args).ticket :=
  applyEvent_eq_set (e := (applyCall t.toTicketCommon args).event) found (evolve_applyCall waits args)

theorem get_afterCall_ne {id : TicketId} (other : id ≠ t.id) (args : CallArgs) :
    (afterCall snap t args).get id = snap.get id := by
  rw [afterCall, get_applyEvent]
  exact if_neg other

/-- Once a ticket is called the others still wait, in the order they did. -/
theorem waiting_afterCall (keyed : snap.Keyed) (found : snap.get t.id = some t)
    (waits : t.state = .waiting) (args : CallArgs) :
    (afterCall snap t args).waiting = snap.waiting.filter (fun q => q.id ≠ t.id) := by
  have called : (applyCall t.toTicketCommon args).ticket.isWaiting = false := rfl
  rw [afterCall_eq found waits]
  have present : t.id ∈ snap.tickets.keys :=
    QueueSnapshot.present (e := (applyCall t.toTicketCommon args).event) found
  refine (InsertionMap.filter_values_set present called).trans ?_
  rw [QueueSnapshot.waiting, InsertionMap.without, InsertionMap.values, List.filter_filter,
    List.filter_map, List.filter_filter, List.filter_map]
  congr 1
  apply List.filter_congr
  intro e mem
  have own : e.2.id = e.1 := keyed e.1 e.2 (InsertionMap.get_of_mem mem)
  simp [own, Bool.and_comm]

theorem inTurn_afterCall (keyed : snap.Keyed) (found : snap.get t.id = some t)
    (waits : t.state = .waiting) (args : CallArgs) (lane : Lane) :
    (afterCall snap t args).inTurn lane = (snap.inTurn lane).filter (fun q => q.id ≠ t.id) := by
  rw [QueueSnapshot.inTurn, QueueSnapshot.waitingIn, waiting_afterCall keyed found waits,
    List.filter_comm, QueueSnapshot.inTurn, Selection.filter_insertionSort]
  rfl

theorem headOrder_afterCall (keyed : snap.Keyed) (found : snap.get t.id = some t)
    (waits : t.state = .waiting) (args : CallArgs) :
    (afterCall snap t args).headOrder = snap.headOrder.filter (fun q => q.id ≠ t.id) := by
  rw [QueueSnapshot.headOrder, QueueSnapshot.headOrder, List.filter_flatMap]
  congr 1
  funext lane
  exact inTurn_afterCall keyed found waits args lane

/-! ### All calls -/

theorem callHeads_eq (keyed : snap.Keyed) (calls : List CallArgs) :
    callHeads calls snap = snap.headOrder.take calls.length := by
  induction calls generalizing snap with
  | nil => rfl
  | cons args calls ih =>
    rw [callHeads, head_eq]
    cases order : snap.headOrder with
    | nil => simp
    | cons t rest =>
      have turn := headOrder_perm snap
      rw [order] at turn
      obtain ⟨inSnap, waits⟩ := List.mem_filter.mp (turn.subset List.mem_cons_self)
      have found := keyed.get_of_mem inSnap
      have waiting : t.state = .waiting := by simpa [Ticket.isWaiting] using waits
      have distinct : ((t :: rest).map (fun q => q.id)).Nodup :=
        (turn.map _).nodup_iff.mpr (waiting_ids_nodup keyed)
      have later := @ih (afterCall snap t args) (keyed.applyEvent _)
      rw [headOrder_afterCall keyed found waiting, order, filter_besides_head distinct] at later
      simp [later]

theorem callHeads_drain (keyed : snap.Keyed) {calls : List CallArgs}
    (enough : snap.waiting.length ≤ calls.length) : callHeads calls snap = snap.headOrder := by
  rw [callHeads_eq keyed]
  exact List.take_of_length_le ((headOrder_perm snap).length_eq ▸ enough)

/-! ### Positions after a call -/

theorem waiting_distinct (distinct : (snap.tickets.values.map (fun t => t.displaySeq)).Nodup) :
    (snap.waiting.map (fun t => t.displaySeq)).Nodup :=
  distinct.sublist (List.filter_sublist.map _)

theorem positionOf_zero_iff (distinct : (snap.waiting.map (fun t => t.displaySeq)).Nodup)
    (found : snap.get t.id = some t) (waits : t.state = .waiting) :
    positionOf snap t.id = some 0 ↔ headOfLane snap t.lane = some t := by
  have mem : t ∈ snap.inTurn t.lane :=
    mem_inTurn.mpr ⟨InsertionMap.mem_values_of_get found, waits, rfl⟩
  rw [positionOf_waiting found waits, Option.some_inj, headOfLane_eq]
  exact Selection.countP_lt_eq_zero_iff (inTurn_strict distinct t.lane) mem

theorem positionOf_place (distinct : (snap.waiting.map (fun t => t.displaySeq)).Nodup)
    (found : snap.get t.id = some t) (waits : t.state = .waiting) {i : Nat}
    (position : positionOf snap t.id = some i) : (snap.inTurn t.lane)[i]? = some t := by
  have mem : t ∈ snap.inTurn t.lane :=
    mem_inTurn.mpr ⟨InsertionMap.mem_values_of_get found, waits, rfl⟩
  rw [positionOf_waiting found waits, Option.some_inj] at position
  exact position ▸ Selection.getElem_countP_lt (inTurn_strict distinct t.lane) mem

/-- Positions within one lane are in the order of the numbers. -/
theorem positionOf_lt_iff (distinct : (snap.waiting.map (fun t => t.displaySeq)).Nodup) {q : Ticket}
    (found : snap.get t.id = some t) (waits : t.state = .waiting) (found' : snap.get q.id = some q)
    (waits' : q.state = .waiting) (lane : t.lane = q.lane) {i j : Nat}
    (position : positionOf snap t.id = some i) (position' : positionOf snap q.id = some j) :
    i < j ↔ t.displaySeq < q.displaySeq := by
  have ordered := List.pairwise_iff_getElem.mp (inTurn_strict distinct q.lane)
  have place := lane ▸ positionOf_place distinct found waits position
  have place' := positionOf_place distinct found' waits' position'
  obtain ⟨bound, here⟩ := List.getElem?_eq_some_iff.mp place
  obtain ⟨bound', here'⟩ := List.getElem?_eq_some_iff.mp place'
  constructor
  · intro before
    have less := ordered i j bound bound' before
    rwa [here, here'] at less
  · intro less
    rcases Nat.lt_trichotomy i j with before | same | behind
    · exact before
    · subst same
      cases here.symm.trans here'
      exact absurd less (Nat.lt_irrefl _)
    · have more := ordered j i bound' bound behind
      rw [here, here'] at more
      omega

/-- The head of a lane leaves the rest of the lane, in turn, and the other lanes. -/
theorem inTurn_afterHead (keyed : snap.Keyed) {first : Ticket}
    (heads : headOfLane snap lane = some first) (args : CallArgs) :
    first.lane = lane ∧ ∃ rest, snap.inTurn lane = first :: rest ∧
      (afterCall snap first args).inTurn lane = rest ∧
      ∀ other, other ≠ lane → (afterCall snap first args).inTurn other = snap.inTurn other := by
  rw [headOfLane_eq] at heads
  obtain ⟨rest, turn⟩ := List.head?_eq_some_iff.mp heads
  have turn : snap.inTurn lane = first :: rest := turn
  obtain ⟨inSnap, waits, inLane⟩ := mem_inTurn.mp (turn ▸ List.mem_cons_self)
  have found := keyed.get_of_mem inSnap
  have ids : ∀ lane, ((snap.inTurn lane).map (fun q => q.id)).Nodup := by
    intro lane
    have perm : (snap.inTurn lane).Perm (snap.waitingIn lane) := List.perm_insertionSort _ _
    exact (perm.map _).nodup_iff.mpr ((waiting_ids_nodup keyed).sublist (List.filter_sublist.map _))
  refine ⟨inLane, rest, turn, ?_, ?_⟩
  · rw [inTurn_afterCall keyed found waits, turn, filter_besides_head (turn ▸ ids lane)]
  · intro other different
    rw [inTurn_afterCall keyed found waits]
    apply List.filter_eq_self.mpr
    intro q mem
    obtain ⟨inValues, _, otherLane⟩ := mem_inTurn.mp mem
    apply decide_eq_true
    intro same
    have one : q = first :=
      Option.some.inj ((same ▸ keyed.get_of_mem inValues).symm.trans found)
    exact different (otherLane.symm.trans (one ▸ inLane))

theorem positionOf_afterHead (keyed : snap.Keyed)
    (distinct : (snap.waiting.map (fun t => t.displaySeq)).Nodup) {first : Ticket}
    (heads : headOfLane snap lane = some first) (args : CallArgs)
    (found : snap.get t.id = some t) (waits : t.state = .waiting) (inLane : t.lane = lane)
    (behind : t ≠ first) : ∃ n, positionOf snap t.id = some (n + 1) ∧
      positionOf (afterCall snap first args) t.id = some n := by
  obtain ⟨firstLane, rest, before, after, _⟩ := inTurn_afterHead keyed heads args
  have mem : t ∈ snap.inTurn lane :=
    mem_inTurn.mpr ⟨InsertionMap.mem_values_of_get found, waits, inLane⟩
  have strict := inTurn_strict distinct lane
  rw [before] at mem strict
  have later : t ∈ rest := (List.mem_cons.mp mem).resolve_left behind
  have passed : first.displaySeq < t.displaySeq := (List.pairwise_cons.mp strict).1 t later
  have stays : (afterCall snap first args).get t.id = some t :=
    (keyed.applyEvent _).get_of_mem (mem_inTurn.mp (after ▸ later)).1
  refine ⟨rest.countP (fun q => q.displaySeq < t.displaySeq), ?_, ?_⟩
  · rw [positionOf_waiting found waits, inLane, before]
    simp [passed]
  · rw [positionOf_waiting stays waits, inLane, after]

theorem positionOf_otherLane (keyed : snap.Keyed) {first : Ticket}
    (heads : headOfLane snap lane = some first) (args : CallArgs)
    (found : snap.get t.id = some t) (other : t.lane ≠ lane) :
    positionOf (afterCall snap first args) t.id = positionOf snap t.id := by
  obtain ⟨firstLane, rest, before, _, lanes⟩ := inTurn_afterHead keyed heads args
  have different : t.id ≠ first.id := by
    intro same
    obtain ⟨inSnap, _⟩ := mem_inTurn.mp (before ▸ List.mem_cons_self)
    have one : first = t :=
      Option.some.inj ((same ▸ keyed.get_of_mem inSnap).symm.trans found)
    exact other (one ▸ firstLane)
  have stays : (afterCall snap first args).get t.id = some t := by
    rw [get_afterCall_ne different]
    exact found
  by_cases waits : t.state = .waiting
  · rw [positionOf_waiting stays waits, positionOf_waiting found waits, lanes t.lane other]
  · simp [positionOf, stays, found, Ticket.isWaiting, waits]

/-! ### Two snapshots -/

/-- Two tickets of one lane which wait before and after: which of them stands first, in their
positions and at the head, has not changed. -/
def KeepsTurn (before after : QueueSnapshot) (id other : TicketId) : Prop :=
  ∀ t q t' q' : Ticket, before.get id = some t → before.get other = some q →
    after.get id = some t' → after.get other = some q' →
    t.state = .waiting → q.state = .waiting → t'.state = .waiting → q'.state = .waiting →
    t.lane = q.lane →
    (∃ i j i' j', positionOf before id = some i ∧ positionOf before other = some j ∧
      positionOf after id = some i' ∧ positionOf after other = some j' ∧ (i < j ↔ i' < j')) ∧
    (headOfLane before t.lane = some t → headOfLane after t.lane ≠ some q') ∧
    (headOfLane before t.lane = some q → headOfLane after t.lane ≠ some t')

theorem keepsTurn_of_places {after : QueueSnapshot} (keyed : snap.Keyed) (keyed' : after.Keyed)
    (distinct : (snap.waiting.map (fun t => t.displaySeq)).Nodup)
    (distinct' : (after.waiting.map (fun t => t.displaySeq)).Nodup)
    (places : ∀ id t t', snap.get id = some t → after.get id = some t' →
      t'.lane = t.lane ∧ t'.displaySeq = t.displaySeq)
    {id other : TicketId} (different : other ≠ id) : KeepsTurn snap after id other := by
  intro t q t' q' stored stored' later later' waits waits' waiting waiting' lane
  obtain ⟨lane', number⟩ := places id t t' stored later
  obtain ⟨otherLane, otherNumber⟩ := places other q q' stored' later'
  obtain rfl := keyed id t stored
  obtain rfl := keyed other q stored'
  have own : t'.id = t.id := keyed' _ t' later
  have own' : q'.id = q.id := keyed' _ q' later'
  rw [← own] at later
  rw [← own'] at later'
  obtain ⟨i, position⟩ : ∃ i, positionOf snap t.id = some i := ⟨_, positionOf_waiting stored waits⟩
  obtain ⟨j, position'⟩ : ∃ j, positionOf snap q.id = some j :=
    ⟨_, positionOf_waiting stored' waits'⟩
  obtain ⟨i', next⟩ : ∃ i', positionOf after t'.id = some i' :=
    ⟨_, positionOf_waiting later waiting⟩
  obtain ⟨j', next'⟩ : ∃ j', positionOf after q'.id = some j' :=
    ⟨_, positionOf_waiting later' waiting'⟩
  have sameLane : t'.lane = q'.lane := lane'.trans (lane.trans otherLane.symm)
  have order : i < j ↔ i' < j' := by
    rw [positionOf_lt_iff distinct stored waits stored' waits' lane position position',
      positionOf_lt_iff distinct' later waiting later' waiting' sameLane next next', number,
      otherNumber]
  have order' : j < i ↔ j' < i' := by
    rw [positionOf_lt_iff distinct stored' waits' stored waits lane.symm position' position,
      positionOf_lt_iff distinct' later' waiting' later waiting sameLane.symm next' next, number,
      otherNumber]
  have apart : i ≠ j := by
    rintro rfl
    have place := positionOf_place distinct stored waits position
    rw [lane, positionOf_place distinct stored' waits' position'] at place
    cases place
    exact different rfl
  refine ⟨⟨i, j, i', j', position, position', own ▸ next, own' ▸ next', order⟩, ?_, ?_⟩
  · intro heads overtakes
    rw [(positionOf_zero_iff distinct stored waits).mpr heads] at position
    rw [lane, ← otherLane] at overtakes
    rw [(positionOf_zero_iff distinct' later' waiting').mpr overtakes] at next'
    cases position
    cases next'
    omega
  · intro heads overtakes
    rw [lane] at heads
    rw [(positionOf_zero_iff distinct stored' waits').mpr heads] at position'
    rw [← lane'] at overtakes
    rw [(positionOf_zero_iff distinct' later waiting).mpr overtakes] at next
    cases position'
    cases next
    omega

/-- The number of calls until a ticket is taken is its position, and every call of a lane's head
brings the rest of that lane forward by one. -/
theorem positions_exact (snap : QueueSnapshot) (keyed : snap.Keyed)
    (distinct : (snap.tickets.values.map (fun t => t.displaySeq)).Nodup) :
    (∀ calls : List CallArgs, snap.waiting.length ≤ calls.length →
      (callHeads calls snap).Perm snap.waiting ∧ (callHeads calls snap).Nodup ∧
      ∀ id t, snap.get id = some t → t.state = .waiting →
        ∃ n, globalPositionOf snap id = some n ∧ (callHeads calls snap)[n]? = some t) ∧
    (∀ id t, snap.get id = some t → t.state = .waiting →
      (positionOf snap id = some 0 ↔ headOfLane snap t.lane = some t)) ∧
    (∀ lane first args, headOfLane snap lane = some first →
      (∀ id t, snap.get id = some t → t.state = .waiting → t.lane = lane → t ≠ first →
        ∃ n, positionOf snap id = some (n + 1) ∧
          positionOf (afterCall snap first args) id = some n) ∧
      (∀ id t, snap.get id = some t → t.lane ≠ lane →
        positionOf (afterCall snap first args) id = positionOf snap id)) := by
  have apart := waiting_distinct distinct
  have own : ∀ {id t}, snap.get id = some t → snap.get t.id = some t ∧ t.id = id := by
    intro id t found
    rw [keyed id t found]
    exact ⟨found, rfl⟩
  refine ⟨fun calls enough => ?_, ?_, fun lane first args heads => ⟨?_, ?_⟩⟩
  · have drained := callHeads_drain keyed enough
    have perm := headOrder_perm snap
    rw [drained]
    refine ⟨perm, perm.nodup_iff.mpr (waiting_ids_nodup keyed).of_map, ?_⟩
    intro id t stored waits
    obtain ⟨found, rfl⟩ := own stored
    exact globalPositionOf_waiting apart found waits
  · intro id t stored waits
    obtain ⟨found, rfl⟩ := own stored
    exact positionOf_zero_iff apart found waits
  · intro id t stored waits inLane behind
    obtain ⟨found, rfl⟩ := own stored
    exact positionOf_afterHead keyed apart heads args found waits inLane behind
  · intro id t stored other
    obtain ⟨found, rfl⟩ := own stored
    exact positionOf_otherLane keyed heads args found other

end

namespace Sample

def walkInAt (k : Nat) : Ticket :=
  ⟨{ freshTicket.toTicketCommon with id := ⟨k⟩, lane := .walkIn, displaySeq := k }, .waiting⟩

/-- A reservation with number 1, and two walk-ins out of turn. -/
def line : QueueSnapshot := .ofTickets [freshTicket, walkInAt 3, walkInAt 2]

def threeCalls : List CallArgs := List.replicate 3 ⟨firstMinute, ⟨9⟩, none, none⟩

end Sample

/-- The reservation is called after both walk-ins, and the call of the first brings the second
forward. -/
theorem positions_exact_line :
    (callHeads Sample.threeCalls Sample.line)[2]? = some Sample.freshTicket ∧
      positionOf (afterCall Sample.line (Sample.walkInAt 2) ⟨Sample.firstMinute, ⟨9⟩, none, none⟩)
        ⟨3⟩ = some 0 := by
  obtain ⟨drained, _, forward⟩ := positions_exact Sample.line
    (QueueSnapshot.keyed_ofTickets (by decide)) (by decide)
  obtain ⟨n, position, called⟩ := (drained Sample.threeCalls (by decide)).2.2 ⟨1⟩
    Sample.freshTicket rfl rfl
  obtain ⟨m, before, after⟩ := (forward .walkIn (Sample.walkInAt 2)
    ⟨Sample.firstMinute, ⟨9⟩, none, none⟩ (by decide)).1 ⟨3⟩ (Sample.walkInAt 3) rfl rfl rfl (by decide)
  have last : globalPositionOf Sample.line ⟨1⟩ = some 2 := by decide
  have second : positionOf Sample.line ⟨3⟩ = some 1 := by decide
  cases position.symm.trans last
  cases before.symm.trans second
  exact ⟨called, after⟩

end SlotBooking
