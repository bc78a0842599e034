import SlotBooking.Domain.Calling
import SlotBooking.Shop.SlotGrid

/-! The public views of the queue: the body of `GET /queue` and the payload of the realtime feed.
In a payload an instant stands for its text; the constants `ok` and `v` are left out. -/
namespace SlotBooking

/-- One ticket as the public sees it. `nudgeCount` is a member which a view may lack. -/
structure TicketView where
  id : TicketId
  seq : Nat
  lane : Lane
  displaySeq : Nat
  appointmentAt : Option Instant
  nudgeCount : Option Nat
deriving DecidableEq

structure LaneCounts where
  walkIn : Nat
  reservation : Nat
deriving DecidableEq

structure QueueView where
  waitingCount : Nat
  laneCounts : LaneCounts
  calling : List TicketView
  overdue : List TicketView
  waitingPreview : List TicketView
  nextReservationDeadline : Option String
deriving DecidableEq

/-- The tickets in one state by display number; the sort is stable. -/
def byDisplaySeq (state : TicketState) (tickets : List Ticket) : List Ticket :=
  (tickets.filter (fun t => t.state = state)).insertionSort (fun a b => a.displaySeq ≤ b.displaySeq)

def laneCounts (waiting : List Ticket) : LaneCounts where
  walkIn := waiting.countP (fun t => t.lane = .walkIn)
  reservation := waiting.countP (fun t => t.lane = .reservation)

/-- The appointment of the first ticket of `reservationsByDeadline`, as a text. -/
def nextDeadline (waiting : List Ticket) : Option String :=
  ((reservationsByDeadline (.ofTickets waiting)).head?.bind (fun t => t.appointmentAt)).map
    InstantText.iso.encode

/-! ### `GET /queue` -/

structure QueueBuckets where
  waiting : List Ticket
  calling : List Ticket
  overdue : List Ticket
  laneCounts : LaneCounts
  nextReservationDeadline : Option String

/-- No value where a Waiting ticket does not decode. -/
def computeQueueBuckets (u : Unicode) (tickets : List Ticket) : Option QueueBuckets := do
  let waiting := byDisplaySeq .waiting tickets
  let decodedWaiting ← waiting.mapM (fun w => decodeTicketRowPayload u ⟨w⟩)
  return {
    waiting
    calling := byDisplaySeq .called tickets
    overdue := byDisplaySeq .overdue tickets
    laneCounts := laneCounts waiting
    nextReservationDeadline := nextDeadline decodedWaiting }

def projectAnonymous (t : Ticket) : TicketView :=
  { id := t.id, seq := t.seq, lane := t.lane, displaySeq := t.displaySeq,
    appointmentAt := t.appointmentAt, nudgeCount := none }

def queueRoute (u : Unicode) (s : DurableStore) : Option QueueView := do
  let buckets ← computeQueueBuckets u s.listTickets
  return {
    waitingCount := buckets.waiting.length
    laneCounts := buckets.laneCounts
    calling := buckets.calling.map projectAnonymous
    overdue := buckets.overdue.map projectAnonymous
    waitingPreview := (buckets.waiting.take 10).map projectAnonymous
    nextReservationDeadline := buckets.nextReservationDeadline }

/-! ### The feed -/

def projectOverdue (t : Ticket) : TicketView :=
  { projectAnonymous t with
    nudgeCount := some ((t.variant.overdue?.map OverdueStamp.nudgeCount).getD 0) }

/-- `SELECT payload FROM tickets WHERE state = 'Waiting'`; `scan` is the order in which the
database gives the rows. -/
def listDecodedWaitingTickets (u : Unicode) (scan : List TicketRow → List TicketRow)
    (s : DurableStore) : Option (List Ticket) :=
  (scan (s.tickets.filter (fun r => r.state = .waiting))).mapM
    (fun r => decodeTicketRowPayload u r.payload)

def projectionPayload (u : Unicode) (scan : List TicketRow → List TicketRow) (s : DurableStore) :
    Option QueueView := do
  let tickets := s.listTickets
  let waiting := byDisplaySeq .waiting tickets
  let decodedWaitingTickets ← listDecodedWaitingTickets u scan s
  return {
    waitingCount := waiting.length
    laneCounts := laneCounts waiting
    calling := (byDisplaySeq .called tickets).map projectAnonymous
    overdue := (byDisplaySeq .overdue tickets).map projectOverdue
    waitingPreview := (waiting.take 10).map projectAnonymous
    nextReservationDeadline := nextDeadline decodedWaitingTickets }

/-! ### The next deadline -/

/-- The ticket without the customer's texts. -/
def Ticket.anonymous (t : Ticket) : Ticket := { t with toCustomerFields := .blank }

/-- The appointment, of a Waiting reservation. -/
def Ticket.reservedFor (t : Ticket) : Option Instant :=
  if t.isWaiting ∧ t.lane = .reservation then t.appointmentAt else none

theorem reservationCandidates_snd (snap : QueueSnapshot) :
    (reservationCandidates snap).map Prod.snd = snap.tickets.values.filterMap Ticket.reservedFor := by
  rw [reservationCandidates, List.map_filterMap]
  congr 1
  funext t
  by_cases waits : t.isWaiting = true
  · by_cases lane : t.lane = .reservation
    · cases appointmentAt : t.appointmentAt <;> simp [Ticket.reservedFor, waits, lane, appointmentAt]
    · simp [Ticket.reservedFor, lane]
  · simp [Ticket.reservedFor, waits]

/-- The deadline is the least of the appointments, whichever ticket has it. -/
theorem nextDeadline_eq (waiting : List Ticket) : nextDeadline waiting =
    ((((QueueSnapshot.ofTickets waiting).tickets.values.filterMap
      Ticket.reservedFor).insertionSort (fun a b => a.epochNs ≤ b.epochNs)).head?).map
        InstantText.iso.encode := by
  rw [← reservationCandidates_snd, nextDeadline, reservationsByDeadline]
  rw [← List.map_insertionSort (fun a b => a.2.epochNs ≤ b.2.epochNs) _ Prod.snd _
    (fun _ _ _ _ => Iff.rfl)]
  congr 1
  have member : ∀ p ∈ (reservationCandidates (.ofTickets waiting)).insertionSort
      (fun a b => a.2.epochNs ≤ b.2.epochNs), p.1.appointmentAt = some p.2 := by
    intro p mem
    exact mem_reservationCandidates ((List.mem_insertionSort _).mp mem)
  cases sorted : (reservationCandidates (.ofTickets waiting)).insertionSort
      (fun a b => a.2.epochNs ≤ b.2.epochNs) with
  | nil => rfl
  | cons p rest => exact member p (by rw [sorted]; exact List.mem_cons_self)

theorem values_ofTickets_anonymous (tickets : List Ticket) :
    (QueueSnapshot.ofTickets (tickets.map Ticket.anonymous)).tickets.values =
      (QueueSnapshot.ofTickets tickets).tickets.values.map Ticket.anonymous := by
  have mapped := InsertionMap.ofList_map Ticket.anonymous (tickets.map (fun t => (t.id, t)))
  rw [← InsertionMap.values_map]
  change (InsertionMap.ofList _).values = ((InsertionMap.ofList _).map _).values
  rw [← mapped, List.map_map, List.map_map]
  rfl

/-- The texts have no part in the deadline. -/
theorem nextDeadline_anonymous (tickets : List Ticket) :
    nextDeadline (tickets.map Ticket.anonymous) = nextDeadline tickets := by
  rw [nextDeadline_eq, nextDeadline_eq, values_ofTickets_anonymous, List.filterMap_map]
  rfl

/-- Nor has the order in which the tickets are listed. -/
theorem nextDeadline_perm {tickets tickets' : List Ticket} (perm : tickets.Perm tickets')
    (distinct : (tickets.map (fun t => t.id)).Nodup) :
    nextDeadline tickets = nextDeadline tickets' := by
  have distinct' : (tickets'.map (fun t => t.id)).Nodup :=
    (perm.map (fun t => t.id)).nodup_iff.mp distinct
  have times := perm.filterMap Ticket.reservedFor
  rw [nextDeadline_eq, nextDeadline_eq, values_ofTickets distinct, values_ofTickets distinct']
  congr 2
  apply List.Perm.eq_of_pairwise _ (List.pairwise_insertionSort _ _) (List.pairwise_insertionSort _ _)
  · exact (List.perm_insertionSort _ _).trans (times.trans (List.perm_insertionSort _ _).symm)
  · rintro ⟨ns, _⟩ ⟨ns', _⟩ _ _ le ge
    have same : ns = ns' := le_antisymm le ge
    cases same
    rfl

/-! ### Decoding -/

section
variable {u : Unicode} {α : Type} {xs : List α} {payload : α → Encoded Ticket}

theorem decoded_anonymous {tickets : List Ticket}
    (decoded : xs.mapM (fun x => decodeTicketRowPayload u (payload x)) = some tickets) :
    tickets.map Ticket.anonymous = xs.map (fun x => (payload x).json.anonymous) := by
  induction Traversal.mapM_eq_some_iff.mp decoded with
  | nil => rfl
  | cons here later ih =>
    obtain ⟨f, _, rfl⟩ := decodeTicketRowPayload_eq_some.mp here
    rw [List.map_cons, List.map_cons, ih (Traversal.mapM_eq_some_iff.mpr later)]
    rfl

theorem decoded_total (decodes : ∀ x ∈ xs, decodeTicketRowPayload u (payload x) ≠ none) :
    ∃ tickets, xs.mapM (fun x => decodeTicketRowPayload u (payload x)) = some tickets :=
  Traversal.mapM_some (fun x mem => Option.ne_none_iff_exists'.mp (decodes x mem))

end

/-! ### The two views -/

section
variable {u : Unicode} {scan : List TicketRow → List TicketRow} {s : DurableStore}

theorem listTickets_perm (s : DurableStore) :
    s.listTickets.Perm (s.tickets.map (fun r => r.payload.json)) :=
  (List.perm_insertionSort (fun a b : TicketRow => a.seq ≤ b.seq) s.tickets).map _

theorem byDisplaySeq_perm (state : TicketState) (s : DurableStore) :
    (byDisplaySeq state s.listTickets).Perm
      ((s.tickets.filter (fun r => r.payload.json.state = state)).map (fun r => r.payload.json)) := by
  have sorted := List.perm_insertionSort (fun a b : Ticket => a.displaySeq ≤ b.displaySeq)
    (s.listTickets.filter (fun t => t.state = state))
  have listed := (listTickets_perm s).filter (fun t => t.state = state)
  rw [List.filter_map] at listed
  exact sorted.trans listed

theorem byDisplaySeq_eq_nil_iff (tidy : s.Tidy) (state : TicketState) :
    byDisplaySeq state s.listTickets = [] ↔ ∀ r ∈ s.tickets, r.state ≠ state := by
  have perm := byDisplaySeq_perm state s
  have empty : byDisplaySeq state s.listTickets = [] ↔
      (s.tickets.filter (fun r => r.payload.json.state = state)).map (fun r => r.payload.json) = [] :=
    ⟨fun none => (none ▸ perm).symm.eq_nil, fun none => (none ▸ perm).eq_nil⟩
  rw [empty, List.map_eq_nil_iff, List.filter_eq_nil_iff]
  refine forall₂_congr (fun r mem => ?_)
  rw [(tidy.rows r mem).2, decide_eq_true_eq]

/-- The Waiting rows, as they are read by their column and as they are listed. -/
theorem waiting_perm (tidy : s.Tidy) (scanned : ∀ rows, (scan rows).Perm rows) :
    ((scan (s.tickets.filter (fun r => r.state = .waiting))).map (fun r => r.payload.json)).Perm
      (byDisplaySeq .waiting s.listTickets) := by
  have column : s.tickets.filter (fun r => r.state = .waiting) =
      s.tickets.filter (fun r => r.payload.json.state = .waiting) := by
    apply List.filter_congr
    intro r mem
    rw [(tidy.rows r mem).2]
  rw [column]
  exact ((scanned _).map _).trans (byDisplaySeq_perm .waiting s).symm

theorem byDisplaySeq_ids (tidy : s.Tidy) (state : TicketState) :
    ((byDisplaySeq state s.listTickets).map (fun t => t.id)).Nodup := by
  rw [((byDisplaySeq_perm state s).map (fun t => t.id)).nodup_iff, List.map_map]
  have distinct : (s.tickets.map (fun r => r.payload.json.id)).Nodup :=
    tidy.payload_ids ▸ tidy.ticketsKeyed
  exact distinct.sublist (List.filter_sublist.map _)

theorem nextDeadline_agree (tidy : s.Tidy) (scanned : ∀ rows, (scan rows).Perm rows)
    {listed waiting : List Ticket}
    (read : listDecodedWaitingTickets u scan s = some listed)
    (decoded : (byDisplaySeq .waiting s.listTickets).mapM
      (fun w => decodeTicketRowPayload u ⟨w⟩) = some waiting) :
    nextDeadline listed = nextDeadline waiting := by
  have perm := (waiting_perm tidy scanned).map Ticket.anonymous
  rw [List.map_map] at perm
  have distinct := byDisplaySeq_ids tidy .waiting
  calc nextDeadline listed
      = nextDeadline (listed.map Ticket.anonymous) := (nextDeadline_anonymous listed).symm
    _ = nextDeadline ((byDisplaySeq .waiting s.listTickets).map Ticket.anonymous) := by
      rw [decoded_anonymous read]
      apply nextDeadline_perm perm
      rw [(perm.map (fun t => t.id)).nodup_iff, List.map_map]
      exact distinct
    _ = nextDeadline (waiting.map Ticket.anonymous) := by rw [decoded_anonymous decoded]
    _ = nextDeadline waiting := nextDeadline_anonymous waiting

theorem scanned_decodes (scanned : ∀ rows, (scan rows).Perm rows)
    (decodes : ∀ r ∈ s.tickets, decodeTicketRowPayload u r.payload ≠ none) :
    ∃ listed, listDecodedWaitingTickets u scan s = some listed :=
  decoded_total (fun r mem => decodes r (List.mem_filter.mp ((scanned _).subset mem)).1)

theorem listed_decodes (decodes : ∀ r ∈ s.tickets, decodeTicketRowPayload u r.payload ≠ none) :
    ∃ waiting, (byDisplaySeq .waiting s.listTickets).mapM
      (fun w => decodeTicketRowPayload u ⟨w⟩) = some waiting := by
  refine @decoded_total u Ticket _ Encoded.mk (fun w mem => ?_)
  obtain ⟨r, inTable, rfl⟩ := List.mem_map.mp ((byDisplaySeq_perm .waiting s).subset mem)
  exact decodes r (List.mem_filter.mp inTable).1

def TicketView.withoutNudgeCount (view : TicketView) : TicketView := { view with nudgeCount := none }

def QueueView.withoutNudgeCounts (view : QueueView) : QueueView :=
  { view with overdue := view.overdue.map TicketView.withoutNudgeCount }

theorem map_projectOverdue_eq_iff (tickets : List Ticket) :
    tickets.map projectOverdue = tickets.map projectAnonymous ↔ tickets = [] := by
  constructor
  · intro same
    cases tickets with
    | nil => rfl
    | cons t tickets =>
      rw [List.map_cons, List.map_cons, List.cons.injEq] at same
      cases congrArg TicketView.nudgeCount same.1
  · rintro rfl
    rfl

/-- What both views have in common: they differ in how they show an Overdue ticket. -/
def DurableStore.view (s : DurableStore) (showOverdue : Ticket → TicketView)
    (deadline : Option String) : QueueView :=
  { waitingCount := (byDisplaySeq .waiting s.listTickets).length
    laneCounts := laneCounts (byDisplaySeq .waiting s.listTickets)
    calling := (byDisplaySeq .called s.listTickets).map projectAnonymous
    overdue := (byDisplaySeq .overdue s.listTickets).map showOverdue
    waitingPreview := ((byDisplaySeq .waiting s.listTickets).take 10).map projectAnonymous
    nextReservationDeadline := deadline }

theorem projectionPayload_eq {listed : List Ticket}
    (read : listDecodedWaitingTickets u scan s = some listed) :
    projectionPayload u scan s = some (s.view projectOverdue (nextDeadline listed)) := by
  rw [projectionPayload, read]
  rfl

theorem queueRoute_eq {waiting : List Ticket}
    (decoded : (byDisplaySeq .waiting s.listTickets).mapM
      (fun w => decodeTicketRowPayload u ⟨w⟩) = some waiting) :
    queueRoute u s = some (s.view projectAnonymous (nextDeadline waiting)) := by
  rw [queueRoute, computeQueueBuckets, decoded]
  rfl

theorem views_agree (tidy : s.Tidy) (scanned : ∀ rows, (scan rows).Perm rows)
    (decodes : ∀ r ∈ s.tickets, decodeTicketRowPayload u r.payload ≠ none) :
    ∃ feed body, projectionPayload u scan s = some feed ∧ queueRoute u s = some body ∧
      feed.withoutNudgeCounts = body ∧ (feed = body ↔ ∀ r ∈ s.tickets, r.state ≠ .overdue) := by
  obtain ⟨listed, read⟩ := scanned_decodes scanned decodes
  obtain ⟨waiting, decoded⟩ := listed_decodes decodes
  have deadline := nextDeadline_agree tidy scanned read decoded
  refine ⟨_, _, projectionPayload_eq read, queueRoute_eq decoded, ?_, ?_⟩
  · rw [DurableStore.view, QueueView.withoutNudgeCounts, deadline, List.map_map]
    rfl
  · rw [← byDisplaySeq_eq_nil_iff tidy .overdue, ← map_projectOverdue_eq_iff, deadline]
    simp [DurableStore.view]

end

/-- The feed and `GET /queue` show the same, but for the nudge counts of Overdue tickets, which
only the feed has. -/
theorem queue_views_agree_iff (u : Unicode) (instants : InstantText)
    (calls : List (Ports × QueueAction)) (scan : List TicketRow → List TicketRow)
    (scanned : ∀ rows, (scan rows).Perm rows) :
    let s := runDispatches u instants calls .empty
    (∀ r ∈ s.tickets, decodeTicketRowPayload u r.payload ≠ none) →
      ∃ feed body, projectionPayload u scan s = some feed ∧ queueRoute u s = some body ∧
        feed.withoutNudgeCounts = body ∧ (feed = body ↔ ∀ r ∈ s.tickets, r.state ≠ .overdue) := by
  intro s decodes
  have steps := @runDispatches_steps u instants .empty DurableStore.kept_empty calls
  exact views_agree (steps.kept DurableStore.kept_empty).tidy scanned decodes

namespace Sample

def walkInArrives : List (Ports × QueueAction) := [(ports 1, .issueTicket handle none none none)]

def walkInOverdue : List (Ports × QueueAction) :=
  walkInArrives ++ [(ports 2, .callSpecific ⟨1⟩ .staff), (ports 3, .moveToOverdue ⟨1⟩)]

end Sample

/-- An Overdue ticket has a nudge count in the feed, and none in the body of the route. -/
theorem overdue_views_differ :
    let s := runDispatches Sample.unicode Sample.noInstants Sample.walkInOverdue .empty
    (∀ r ∈ s.tickets, decodeTicketRowPayload Sample.unicode r.payload ≠ none) ∧
      projectionPayload Sample.unicode id s ≠ queueRoute Sample.unicode s := by
  intro s
  refine ⟨by decide +kernel, fun same => ?_⟩
  have fed : (projectionPayload Sample.unicode id s).map
      (fun view => view.overdue.map TicketView.nudgeCount) = some [some 0] := by decide +kernel
  have shown : (queueRoute Sample.unicode s).map
      (fun view => view.overdue.map TicketView.nudgeCount) = some [none] := by decide +kernel
  rw [same, shown] at fed
  cases fed

theorem queue_views_agree_iff_waiting :
    let s := runDispatches Sample.unicode Sample.noInstants Sample.walkInArrives .empty
    ∃ feed body, projectionPayload Sample.unicode List.reverse s = some feed ∧
      queueRoute Sample.unicode s = some body ∧ feed.withoutNudgeCounts = body ∧
        (feed = body ↔ ∀ r ∈ s.tickets, r.state ≠ .overdue) :=
  queue_views_agree_iff Sample.unicode Sample.noInstants Sample.walkInArrives List.reverse
    List.reverse_perm (by decide +kernel)

end SlotBooking
