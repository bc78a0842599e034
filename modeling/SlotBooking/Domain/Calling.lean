import SlotBooking.Domain.Projection
import SlotBooking.Library.Selection

/-! Who is called next. The lane scan and the listing by deadline both come down to the head of
a stably sorted list, and `nextCallable` to a choice between two such heads. -/
namespace SlotBooking

/-- A reservation is a ticket with an appointment. -/
def Ticket.Laned (t : Ticket) : Prop := t.lane = .reservation ↔ t.appointmentAt ≠ none

instance (t : Ticket) : Decidable t.Laned :=
  inferInstanceAs (Decidable (t.lane = .reservation ↔ t.appointmentAt ≠ none))

def Ticket.deadline (t : Ticket) : Int := (t.appointmentAt.map Instant.epochNs).getD 0

namespace QueueSnapshot

variable (snap : QueueSnapshot)

def waiting : List Ticket := snap.tickets.values.filter Ticket.isWaiting

def waitingIn (lane : Lane) : List Ticket := snap.waiting.filter (fun t => t.lane = lane)

/-- The Waiting reservations with an appointment. -/
def booked : List Ticket :=
  (snap.waitingIn .reservation).filter (fun t => t.appointmentAt.isSome)

def walkInsInTurn : List Ticket :=
  (snap.waitingIn .walkIn).insertionSort (fun a b => a.displaySeq ≤ b.displaySeq)

def bookedInTurn : List Ticket :=
  snap.booked.insertionSort (fun a b => a.deadline ≤ b.deadline)

/-- The reservations due at the cutoff, then the walk-ins, then the other reservations. -/
def callOrder (cutoff : Int) : List Ticket :=
  snap.bookedInTurn.filter (fun t => t.deadline ≤ cutoff) ++ snap.walkInsInTurn ++
    snap.bookedInTurn.filter (fun t => cutoff < t.deadline)

/-- What the drain order asks of a list of tickets. -/
def InCallOrder (cutoff : Int) (order : List Ticket) : Prop :=
  ∃ due walkIns later, order = due ++ walkIns ++ later ∧
    Selection.StablySorted Ticket.deadline
      (snap.booked.filter (fun t => t.deadline ≤ cutoff)) due ∧
    walkIns.Perm (snap.waitingIn .walkIn) ∧
    walkIns.Pairwise (fun a b => a.displaySeq < b.displaySeq) ∧
    Selection.StablySorted Ticket.deadline
      (snap.booked.filter (fun t => cutoff < t.deadline)) later

end QueueSnapshot

section
variable {snap : QueueSnapshot}

theorem headOfLane_eq (lane : Lane) : headOfLane snap lane =
    ((snap.waitingIn lane).insertionSort (fun a b => a.displaySeq ≤ b.displaySeq)).head? := by
  rw [← Selection.foldl_keepLeast, QueueSnapshot.waitingIn, QueueSnapshot.waiting,
    List.filter_filter, List.foldl_filter, headOfLane]
  congr 1
  funext best t
  by_cases isWaiting : t.isWaiting
  · by_cases inLane : t.lane = lane
    · cases best <;> simp [isWaiting, inLane, Selection.keepLeast]
    · simp [isWaiting, inLane]
  · simp [isWaiting]

theorem headOfLane_none_iff (lane : Lane) : headOfLane snap lane = none ↔
    snap.waitingIn lane = [] := by
  rw [headOfLane_eq, List.head?_eq_none_iff, ← List.length_eq_zero_iff,
    List.length_insertionSort, List.length_eq_zero_iff]

theorem mem_reservationCandidates {p : Ticket × Instant} (mem : p ∈ reservationCandidates snap) :
    p.1.appointmentAt = some p.2 := by
  obtain ⟨t, _, chosen⟩ := List.mem_filterMap.mp mem
  split at chosen
  · cases chosen
  · split at chosen
    · cases chosen
    · obtain ⟨apptAt, booked, rfl⟩ := Option.map_eq_some_iff.mp chosen
      exact booked

theorem reservationCandidates_fst : (reservationCandidates snap).map Prod.fst = snap.booked := by
  rw [QueueSnapshot.booked, QueueSnapshot.waitingIn, QueueSnapshot.waiting, List.filter_filter,
    List.filter_filter, reservationCandidates, List.map_filterMap, ← List.filterMap_eq_filter]
  congr 1
  funext t
  by_cases isWaiting : t.isWaiting
  · by_cases inLane : t.lane = .reservation
    · cases appointmentAt : t.appointmentAt <;>
        simp [isWaiting, inLane, appointmentAt, Option.guard]
    · simp [isWaiting, inLane, Option.guard]
  · simp [isWaiting, Option.guard]

theorem reservationsByDeadline_eq : reservationsByDeadline snap = snap.bookedInTurn := by
  have keyed : ∀ p ∈ reservationCandidates snap, ∀ q ∈ reservationCandidates snap,
      (p.2.epochNs ≤ q.2.epochNs ↔ p.1.deadline ≤ q.1.deadline) := by
    intro p hp q hq
    simp [Ticket.deadline, mem_reservationCandidates hp, mem_reservationCandidates hq]
  rw [reservationsByDeadline, List.map_insertionSort _ (fun a b => a.deadline ≤ b.deadline) Prod.fst
    _ keyed, reservationCandidates_fst, QueueSnapshot.bookedInTurn]

/-- The first of a line with distinct ids leaves the rest of it. -/
theorem filter_besides_head {t : Ticket} {rest : List Ticket}
    (distinct : ((t :: rest).map (fun q => q.id)).Nodup) :
    (t :: rest).filter (fun q => q.id ≠ t.id) = rest := by
  have once : t.id ∉ rest.map (fun q => q.id) := (List.nodup_cons.mp distinct).1
  rw [List.filter_cons_of_neg (by simp)]
  apply List.filter_eq_self.mpr
  intro q mem
  exact decide_eq_true (fun same => once (same ▸ List.mem_map_of_mem mem))

theorem mem_waitingIn {t : Ticket} {lane : Lane} : t ∈ snap.waitingIn lane ↔
    t ∈ snap.tickets.values ∧ t.state = .waiting ∧ t.lane = lane := by
  rw [QueueSnapshot.waitingIn, List.mem_filter, QueueSnapshot.waiting, List.mem_filter, and_assoc]
  simp [Ticket.isWaiting]

theorem mem_booked {t : Ticket} : t ∈ snap.booked ↔ t ∈ snap.tickets.values ∧
    t.state = .waiting ∧ t.lane = .reservation ∧ t.appointmentAt ≠ none := by
  rw [QueueSnapshot.booked, List.mem_filter, mem_waitingIn, and_assoc, and_assoc,
    Option.isSome_iff_ne_none]

theorem mem_bookedInTurn {t : Ticket} : t ∈ snap.bookedInTurn ↔ t ∈ snap.booked :=
  List.mem_insertionSort _

/-! ### The pick -/

theorem firstLaneWithWaiting_walkIn {t : Ticket} (head : headOfLane snap .walkIn = some t) :
    firstLaneWithWaiting snap = some .walkIn := by
  simp [firstLaneWithWaiting, preferredLaneChain, head]

theorem firstLaneWithWaiting_other (none_ : headOfLane snap .walkIn = none) :
    firstLaneWithWaiting snap =
      if (headOfLane snap .reservation).isSome then some .reservation else none := by
  cases head : headOfLane snap .reservation <;>
    simp [firstLaneWithWaiting, preferredLaneChain, none_, head]

/-- Where nobody waits with an appointment, the first walk-in is next. A reservation without
one is never picked. -/
theorem nextCallable_unbooked (now : Instant) (graceMinutes : Int)
    (unbooked : snap.bookedInTurn = []) :
    nextCallable snap now graceMinutes = some snap.walkInsInTurn.head? := by
  have walkIn : headOfLane snap .walkIn = snap.walkInsInTurn.head? := headOfLane_eq .walkIn
  have empty : reservationsByDeadline snap = [] := reservationsByDeadline_eq.trans unbooked
  simp only [nextCallable, firstLaneWithCallable, empty, List.head?_nil]
  rw [← walkIn]
  cases head : headOfLane snap .walkIn with
  | some t =>
    rw [firstLaneWithWaiting_walkIn head]
    simp [head]
  | none =>
    rw [firstLaneWithWaiting_other head]
    split <;> rfl

/-- Otherwise the earliest appointment is next if it is due, or if there is no walk-in. -/
theorem nextCallable_booked (now : Instant) (graceMinutes : Int) {first : Ticket}
    {rest : List Ticket} (booked : snap.bookedInTurn = first :: rest) :
    nextCallable snap now graceMinutes = (now.addMinutes graceMinutes).map (fun cutoff =>
      if first.deadline ≤ cutoff.epochNs then some first
      else snap.walkInsInTurn.head?.or (some first)) := by
  have walkIn : headOfLane snap .walkIn = snap.walkInsInTurn.head? := headOfLane_eq .walkIn
  have listed : reservationsByDeadline snap = first :: rest :=
    reservationsByDeadline_eq.trans booked
  have inTurn : first ∈ snap.booked := mem_bookedInTurn.mp (by simp [booked])
  obtain ⟨inSnap, isWaiting, inLane, dated⟩ := mem_booked.mp inTurn
  obtain ⟨appointmentAt, due⟩ := Option.ne_none_iff_exists'.mp dated
  have deadline : first.deadline = appointmentAt.epochNs := by simp [Ticket.deadline, due]
  simp only [nextCallable, firstLaneWithCallable, listed, List.head?_cons, due, deadline]
  rw [← walkIn]
  cases now.addMinutes graceMinutes with
  | none => rfl
  | some cutoff =>
    by_cases early : appointmentAt.epochNs ≤ cutoff.epochNs
    · simp [early]
    · cases head : headOfLane snap .walkIn with
      | some t => simp [early, firstLaneWithWaiting_walkIn head, head]
      | none =>
        have occupied : headOfLane snap .reservation ≠ none := by
          rw [Ne, headOfLane_none_iff]
          exact List.ne_nil_of_mem (mem_waitingIn.mpr ⟨inSnap, isWaiting, inLane⟩)
        simp [firstLaneWithWaiting_other head, Option.isSome_iff_ne_none, occupied]

theorem nextCallable_none_iff (now : Instant) (graceMinutes : Int) :
    nextCallable snap now graceMinutes = some none ↔
      snap.booked = [] ∧ snap.waitingIn .walkIn = [] := by
  have walkIns : snap.walkInsInTurn.head? = none ↔ snap.waitingIn .walkIn = [] := by
    rw [← headOfLane_none_iff, headOfLane_eq]
    rfl
  have sorted : snap.bookedInTurn = [] ↔ snap.booked = [] := by
    rw [← List.length_eq_zero_iff, QueueSnapshot.bookedInTurn, List.length_insertionSort,
      List.length_eq_zero_iff]
  cases booked : snap.bookedInTurn with
  | nil =>
    rw [nextCallable_unbooked now graceMinutes booked, Option.some_inj, walkIns, ← sorted, booked]
    simp
  | cons first rest =>
    rw [nextCallable_booked now graceMinutes booked, ← sorted, booked]
    cases now.addMinutes graceMinutes with
    | none => simp
    | some cutoff =>
      by_cases early : first.deadline ≤ cutoff.epochNs
      · simp [early]
      · cases snap.walkInsInTurn.head? <;> simp [early]

/-! ### The order in which everybody is called -/

/-- The selection takes the head of the order. -/
theorem nextCallable_eq_head {now : Instant} {graceMinutes : Int}
    (reached : (now.addMinutes graceMinutes).isSome ∨ snap.booked = []) :
    nextCallable snap now graceMinutes =
      some (snap.callOrder (now.epochNs + graceMinutes * nsPerMinute)).head? := by
  cases booked : snap.bookedInTurn with
  | nil =>
    rw [nextCallable_unbooked now graceMinutes booked, QueueSnapshot.callOrder, booked]
    simp
  | cons first rest =>
    have inTurn : first ∈ snap.booked := mem_bookedInTurn.mp (by simp [booked])
    have occupied : snap.booked ≠ [] := List.ne_nil_of_mem inTurn
    obtain ⟨cutoff, added⟩ := Option.isSome_iff_exists.mp (reached.resolve_right occupied)
    have epochNs : cutoff.epochNs = now.epochNs + graceMinutes * nsPerMinute :=
      Instant.ofEpochNs_eq_some.mp added
    rw [nextCallable_booked now graceMinutes booked, added, Option.map_some, Option.some_inj,
      ← epochNs, QueueSnapshot.callOrder, booked]
    by_cases due : first.deadline ≤ cutoff.epochNs
    · simp [due]
    · have ascending : (first :: rest).Pairwise (fun a b => a.deadline ≤ b.deadline) :=
        booked ▸ List.pairwise_insertionSort _ snap.booked
      have nobody : rest.filter (fun t => t.deadline ≤ cutoff.epochNs) = [] := by
        apply List.filter_eq_nil_iff.mpr
        intro t mem early
        have after := (List.pairwise_cons.mp ascending).1 t mem
        exact due (after.trans (of_decide_eq_true early))
      simp [due, nobody, not_le.mp due]

section
variable {snap' : QueueSnapshot} {p : Ticket → Bool}

theorem waitingIn_filter (fewer : snap'.waiting = snap.waiting.filter p) (lane : Lane) :
    snap'.waitingIn lane = (snap.waitingIn lane).filter p := by
  rw [QueueSnapshot.waitingIn, fewer, QueueSnapshot.waitingIn, List.filter_comm]

theorem booked_filter (fewer : snap'.waiting = snap.waiting.filter p) :
    snap'.booked = snap.booked.filter p := by
  rw [QueueSnapshot.booked, waitingIn_filter fewer, QueueSnapshot.booked, List.filter_comm]

/-- Whoever no longer waits is left out, and the others keep their turn. -/
theorem callOrder_filter (fewer : snap'.waiting = snap.waiting.filter p) (cutoff : Int) :
    snap'.callOrder cutoff = (snap.callOrder cutoff).filter p := by
  have bookedInTurn : snap'.bookedInTurn = snap.bookedInTurn.filter p := by
    rw [QueueSnapshot.bookedInTurn, booked_filter fewer, ← Selection.filter_insertionSort,
      QueueSnapshot.bookedInTurn]
  have walkInsInTurn : snap'.walkInsInTurn = snap.walkInsInTurn.filter p := by
    rw [QueueSnapshot.walkInsInTurn, waitingIn_filter fewer, ← Selection.filter_insertionSort,
      QueueSnapshot.walkInsInTurn]
  rw [QueueSnapshot.callOrder, bookedInTurn, walkInsInTurn, QueueSnapshot.callOrder,
    List.filter_append, List.filter_append,
    List.filter_comm p (fun t => decide (t.deadline ≤ cutoff)),
    List.filter_comm p (fun t => decide (cutoff < t.deadline))]

end

/-- Where the lanes are right the order holds everybody who waits. -/
theorem callOrder_perm (laned : ∀ t ∈ snap.waiting, t.Laned) (cutoff : Int) :
    (snap.callOrder cutoff).Perm snap.waiting := by
  have later : ∀ t : Ticket, (!decide (t.deadline ≤ cutoff)) = decide (cutoff < t.deadline) := by
    intro t
    rw [← decide_not, decide_eq_decide, not_le]
  have halves := List.filter_append_perm (fun t => decide (t.deadline ≤ cutoff)) snap.bookedInTurn
  simp only [later] at halves
  have booked : snap.booked = snap.waiting.filter (fun t => !decide (t.lane = .walkIn)) := by
    rw [QueueSnapshot.booked, QueueSnapshot.waitingIn, List.filter_filter]
    apply List.filter_congr
    intro t mem
    have dated := laned t mem
    cases inLane : t.lane <;> simp_all [Ticket.Laned, Option.isSome_iff_ne_none]
  have turn : (snap.callOrder cutoff).Perm (snap.waitingIn .walkIn ++ snap.booked) := by
    have walkIns : snap.walkInsInTurn.Perm (snap.waitingIn .walkIn) :=
      List.perm_insertionSort _ _
    have inTurn : snap.bookedInTurn.Perm snap.booked := List.perm_insertionSort _ _
    rw [QueueSnapshot.callOrder]
    refine (List.perm_append_comm.append_right _).trans ?_
    rw [List.append_assoc]
    exact walkIns.append (halves.trans inTurn)
  rw [booked] at turn
  exact turn.trans (List.filter_append_perm _ _)

theorem callOrder_inCallOrder
    (distinct : (snap.tickets.values.map (fun t => t.displaySeq)).Nodup) (cutoff : Int) :
    snap.InCallOrder cutoff (snap.callOrder cutoff) := by
  have part : ∀ p : Ticket → Bool, Selection.StablySorted Ticket.deadline (snap.booked.filter p)
      (snap.bookedInTurn.filter p) := by
    intro p
    rw [QueueSnapshot.bookedInTurn, Selection.filter_insertionSort]
    exact Selection.stablySorted_insertionSort Ticket.deadline _
  have walkIns := Selection.stablySorted_insertionSort (fun t : Ticket => t.displaySeq)
    (snap.waitingIn .walkIn)
  have chosen : (snap.waitingIn .walkIn).Sublist snap.tickets.values :=
    List.filter_sublist.trans List.filter_sublist
  exact ⟨_, _, _, rfl, part _, walkIns.perm,
    walkIns.strict (distinct.sublist (chosen.map _)), part _⟩

/-- Only Waiting tickets of the snapshot are picked. -/
theorem nextCallable_mem {now : Instant} {graceMinutes : Int} {t : Ticket}
    (picked : nextCallable snap now graceMinutes = some (some t)) :
    t ∈ snap.tickets.values ∧ t.state = .waiting := by
  have walkIn : ∀ {w}, snap.walkInsInTurn.head? = some w →
      w ∈ snap.tickets.values ∧ w.state = .waiting := by
    intro w head
    have mem : w ∈ snap.waitingIn .walkIn :=
      (List.mem_insertionSort _).mp (List.mem_of_head? head)
    obtain ⟨inSnap, isWaiting, _⟩ := mem_waitingIn.mp mem
    exact ⟨inSnap, isWaiting⟩
  cases booked : snap.bookedInTurn with
  | nil =>
    rw [nextCallable_unbooked now graceMinutes booked, Option.some_inj] at picked
    exact walkIn picked
  | cons first rest =>
    have inTurn : first ∈ snap.booked := mem_bookedInTurn.mp (by simp [booked])
    obtain ⟨inSnap, isWaiting, _⟩ := mem_booked.mp inTurn
    rw [nextCallable_booked now graceMinutes booked] at picked
    obtain ⟨cutoff, _, chosen⟩ := Option.map_eq_some_iff.mp picked
    split at chosen
    · cases chosen
      exact ⟨inSnap, isWaiting⟩
    · cases head : snap.walkInsInTurn.head? with
      | none =>
        rw [head] at chosen
        cases chosen
        exact ⟨inSnap, isWaiting⟩
      | some w =>
        rw [head] at chosen
        cases chosen
        exact walkIn head

end

end SlotBooking
