import SlotBooking.Domain.Positions
import SlotBooking.Shop.QueueViews

/-! The position on the ticket page. The server cuts the line of all lanes after ten, the page
keeps its own lane and looks for its ticket, and the core counts within the lane. -/
namespace SlotBooking

/-- `positionInfo` of the ticket page: `ticket` is the page's ticket, `snapshot` the last view of
the queue it has. -/
def positionInfo (ticket : Option Ticket) (snapshot : Option QueueView) : Option Nat :=
  match ticket, snapshot with
  | some ticket, some snapshot =>
    if ticket.state ≠ .waiting then none
    else
      let sameLane := snapshot.waitingPreview.filter (fun t => t.lane = ticket.lane)
      sameLane.findIdx? (fun t => t.id = ticket.id)
  | _, _ => none

section
variable {u : Unicode} {s : DurableStore} {t w : Ticket}

/-- The Waiting tickets as they are stored, in the order of their numbers. -/
abbrev DurableStore.waitingLine (s : DurableStore) : List Ticket := byDisplaySeq .waiting s.listTickets

/-- What is true of every waiting line with distinct numbers and ids. -/
structure DurableStore.Lined (s : DurableStore) : Prop where
  ids : (s.tickets.map (fun r => r.payload.json.id)).Nodup
  numbers : (s.tickets.map (fun r => r.payload.json.displaySeq)).Nodup

theorem DurableStore.Lined.strict (lined : s.Lined) :
    s.waitingLine.Pairwise (fun a b => a.displaySeq < b.displaySeq) := by
  have numbers : (s.listTickets.map (fun t => t.displaySeq)).Nodup := by
    rw [((listTickets_perm s).map (fun t => t.displaySeq)).nodup_iff, List.map_map]
    exact lined.numbers
  exact (Selection.stablySorted_insertionSort (fun t : Ticket => t.displaySeq) _).strict
    (numbers.sublist (List.filter_sublist.map _))

theorem DurableStore.Lined.named (lined : s.Lined) :
    ∀ a ∈ s.waitingLine, ∀ b ∈ s.waitingLine, a.id = b.id → a = b := by
  have ids : (s.waitingLine.map (fun t => t.id)).Nodup := by
    rw [((byDisplaySeq_perm .waiting s).map (fun t => t.id)).nodup_iff, List.map_map]
    exact lined.ids.sublist (List.filter_sublist.map _)
  exact fun a inLine b inLine' => List.inj_on_of_nodup_map ids inLine inLine'

/-! ### The page -/

/-- The page's ticket, as it stands in the line. -/
structure Ticket.StandsAs (t w : Ticket) : Prop where
  id : t.id = w.id
  lane : t.lane = w.lane
  waits : t.state = .waiting

theorem positionInfo_preview (stands : t.StandsAs w) {view : QueueView} {line : List Ticket}
    (preview : view.waitingPreview = line.map projectAnonymous) :
    positionInfo (some t) (some view) =
      (line.filter (fun q => q.lane = w.lane)).findIdx? (fun q => q.id = w.id) := by
  simp only [positionInfo, stands.waits, ne_eq, not_true_eq_false, if_false, preview, stands.id,
    stands.lane, List.filter_map, List.findIdx?_map]
  rfl

/-- Among the first ten, the page shows how many of the lane come before. -/
theorem positionInfo_shown (lined : s.Lined) (stands : t.StandsAs w) {view : QueueView}
    (preview : view.waitingPreview = (s.waitingLine.take 10).map projectAnonymous)
    (early : w ∈ s.waitingLine.take 10) : positionInfo (some t) (some view) =
      some (s.waitingLine.countP
        (fun q => q.lane = w.lane && q.displaySeq < w.displaySeq)) := by
  have strict : ((s.waitingLine.take 10).filter (fun q => q.lane = w.lane)).Pairwise
      (fun a b => a.displaySeq < b.displaySeq) :=
    (lined.strict.sublist (List.take_sublist 10 _)).filter _
  have mem : w ∈ (s.waitingLine.take 10).filter (fun q => q.lane = w.lane) :=
    List.mem_filter.mpr ⟨early, decide_eq_true rfl⟩
  have named : ∀ q ∈ (s.waitingLine.take 10).filter (fun q => q.lane = w.lane),
      q.id = w.id → q = w := fun q inLane =>
    lined.named q (List.mem_of_mem_take (List.mem_of_mem_filter inLane)) w (List.mem_of_mem_take early)
  rw [positionInfo_preview stands preview, Selection.findIdx?_name strict mem named,
    List.countP_filter, ← Selection.countP_take _ lined.strict early]
  congr 2
  funext q
  rw [Bool.and_comm]

/-- Behind the first ten, the page shows nothing. -/
theorem positionInfo_hidden (lined : s.Lined) (stands : t.StandsAs w) {view : QueueView}
    (preview : view.waitingPreview = (s.waitingLine.take 10).map projectAnonymous)
    (inLine : w ∈ s.waitingLine) (late : w ∉ s.waitingLine.take 10) :
    positionInfo (some t) (some view) = none ∧
      10 ≤ s.waitingLine.countP (fun q => q.displaySeq < w.displaySeq) := by
  constructor
  · rw [positionInfo_preview stands preview, List.findIdx?_eq_none_iff]
    intro q mem
    have inTake := List.mem_of_mem_filter mem
    apply decide_eq_false
    intro same
    exact late (lined.named q (List.mem_of_mem_take inTake) w inLine same ▸ inTake)
  · have parts := List.take_append_drop 10 s.waitingLine
    have behind : w ∈ s.waitingLine.drop 10 :=
      (List.mem_append.mp (parts.symm ▸ inLine)).resolve_left late
    have apart := List.pairwise_append.mp (parts.symm ▸ lined.strict)
    have front : (s.waitingLine.take 10).countP (fun q => q.displaySeq < w.displaySeq) =
        (s.waitingLine.take 10).length :=
      List.countP_eq_length.mpr (fun q mem => decide_eq_true (apart.2.2 q mem w behind))
    have long : (s.waitingLine.take 10).length = 10 := by
      have some := List.length_pos_of_mem behind
      rw [List.length_drop] at some
      rw [List.length_take]
      omega
    calc 10 = (s.waitingLine.take 10).countP (fun q => q.displaySeq < w.displaySeq) := by
          rw [front, long]
      _ ≤ s.waitingLine.countP (fun q => q.displaySeq < w.displaySeq) :=
          (List.take_sublist 10 _).countP_le

/-! ### The core -/

/-- A count over the line is one over those of the listing who wait. -/
theorem countP_line {all : List Ticket} (listed : Durable.listAll u s = .ok all) {p : Ticket → Bool}
    (outlined : ∀ t q : Ticket, t.outline = q.outline → p t = p q) :
    s.waitingLine.countP p = all.countP (fun t => t.isWaiting && p t) := by
  have both : ∀ t q : Ticket, t.outline = q.outline →
      (t.isWaiting && p t) = (q.isWaiting && p q) := by
    intro t q same
    have state : t.outline.state = q.outline.state := congrArg Ticket.state same
    rw [outlined t q same, Ticket.isWaiting, Ticket.isWaiting]
    simp only [Ticket.outline_state] at state
    rw [state]
  rw [countP_listed listed both, (byDisplaySeq_perm .waiting s).countP_eq, List.countP_map,
    List.countP_filter]
  apply List.countP_congr
  intro r _
  simp [Ticket.isWaiting, and_comm]

theorem positionOf_listed (lined : s.Lined) {all : List Ticket}
    (listed : Durable.listAll u s = .ok all) (mem : t ∈ all) (waits : t.state = .waiting) :
    positionOf (.ofTickets all) t.id = some (s.waitingLine.countP
      (fun q => q.lane = t.lane && q.displaySeq < t.displaySeq)) := by
  have distinct := listed_distinct lined.ids listed
  have found : (QueueSnapshot.ofTickets all).get t.id = some t :=
    (QueueSnapshot.get_ofTickets distinct).mpr ⟨mem, rfl⟩
  have outlined : ∀ a b : Ticket, a.outline = b.outline →
      (decide (a.lane = t.lane) && decide (a.displaySeq < t.displaySeq)) =
        (decide (b.lane = t.lane) && decide (b.displaySeq < t.displaySeq)) := by
    intro a b same
    have lane : a.lane = b.lane := congrArg (fun t => t.lane) same
    have number : a.displaySeq = b.displaySeq := congrArg (fun t => t.displaySeq) same
    rw [lane, number]
  rw [countP_line listed outlined]
  simp [positionOf, found, Ticket.isWaiting, waits, aheadInLane, values_ofTickets distinct,
    Bool.and_assoc]

/-- A listed ticket stands in the line as it is stored. -/
theorem listed_stands {all : List Ticket} (listed : Durable.listAll u s = .ok all) (mem : t ∈ all)
    (waits : t.state = .waiting) :
    ∃ w ∈ s.waitingLine, t.StandsAs w ∧ t.displaySeq = w.displaySeq := by
  obtain ⟨r, inListing, read⟩ := Traversal.mem_of_mapM (Traversal.mapM_eq_some_iff.mpr (listAll_eq_ok.mp listed)) mem
  obtain ⟨f, _, rfl⟩ := decodeTicketRowPayload_eq_some.mp read
  refine ⟨r.payload.json, ?_, ⟨rfl, rfl, waits⟩, rfl⟩
  apply (byDisplaySeq_perm .waiting s).mem_iff.mpr
  apply List.mem_map_of_mem
  exact List.mem_filter.mpr ⟨mem_listed inListing, decide_eq_true waits⟩

end

/-- Whatever the page shows as the position of a Waiting ticket is its position in the core, and it
shows none only behind ten tickets with smaller numbers. -/
theorem page_position (u : Unicode) (scan : List TicketRow → List TicketRow)
    (scanned : ∀ rows, (scan rows).Perm rows) (s : DurableStore) (lined : s.Lined)
    (decodes : ∀ r ∈ s.tickets, decodeTicketRowPayload u r.payload ≠ none) :
    ∃ all body feed, Durable.listAll u s = .ok all ∧ queueRoute u s = some body ∧
      projectionPayload u scan s = some feed ∧
      ∀ t ∈ all, t.state = .waiting → ∀ view, view = body ∨ view = feed →
        ∃ n, positionOf (.ofTickets all) t.id = some n ∧
          (positionInfo (some t) (some view) = some n ∨ positionInfo (some t) (some view) = none) ∧
          (positionInfo (some t) (some view) = none →
            10 ≤ all.countP (fun q => q.isWaiting && q.displaySeq < t.displaySeq)) := by
  obtain ⟨decoded, read⟩ := scanned_decodes scanned decodes
  obtain ⟨waiting, inLine⟩ := listed_decodes decodes
  obtain ⟨all, mapped⟩ := @decoded_total u _ (s.tickets.insertionSort (fun a b => a.seq ≤ b.seq))
    TicketRow.payload (fun r mem => decodes r (mem_listed mem))
  have listed : Durable.listAll u s = .ok all := orFail_eq_ok.mpr mapped
  refine ⟨all, _, _, listed, queueRoute_eq inLine, projectionPayload_eq read, ?_⟩
  intro t mem waits view shows
  have preview : view.waitingPreview = (s.waitingLine.take 10).map projectAnonymous := by
    rcases shows with rfl | rfl <;> rfl
  obtain ⟨w, standing, stands, number⟩ := listed_stands listed mem waits
  refine ⟨_, positionOf_listed lined listed mem waits, ?_⟩
  by_cases early : w ∈ s.waitingLine.take 10
  · have shown := positionInfo_shown lined stands preview early
    rw [← stands.lane, ← number] at shown
    rw [shown]
    exact ⟨.inl rfl, nofun⟩
  · obtain ⟨hidden, ten⟩ := positionInfo_hidden lined stands preview standing early
    refine ⟨.inr hidden, fun _ => ?_⟩
    rw [countP_line listed (fun a b same => by
      rw [show a.displaySeq = b.displaySeq from congrArg (fun t => t.displaySeq) same])] at ten
    rwa [number]

namespace Sample

def standing (k : Nat) (lane : Lane) : Ticket :=
  ⟨{ issued.ticket.toTicketCommon with id := ⟨k⟩, seq := k, lane, displaySeq := k }, .waiting⟩

/-- Two walk-ins around a reservation, stored out of turn. -/
def threeWaiting : DurableStore :=
  { DurableStore.empty with
    tickets := [standing 3 .walkIn, standing 2 .reservation, standing 1 .walkIn].map
      (fun t => ticketColumns t 1 ⟨t⟩) }

end Sample

theorem page_position_three :
    ∃ all body, Durable.listAll Sample.unicode Sample.threeWaiting = .ok all ∧
      queueRoute Sample.unicode Sample.threeWaiting = some body ∧
      positionInfo (some (Sample.standing 3 .walkIn)) (some body) =
        positionOf (.ofTickets all) ⟨3⟩ := by
  obtain ⟨all, body, feed, listed, route, _, agree⟩ := page_position Sample.unicode List.reverse
    List.reverse_perm Sample.threeWaiting ⟨by decide, by decide⟩ (by decide)
  have known : Durable.listAll Sample.unicode Sample.threeWaiting =
      .ok [Sample.standing 1 .walkIn, Sample.standing 2 .reservation, Sample.standing 3 .walkIn] := by
    decide
  cases known.symm.trans listed
  obtain ⟨n, position, shown, hidden⟩ := agree (Sample.standing 3 .walkIn) (by decide) rfl body
    (.inl rfl)
  refine ⟨_, body, listed, route, ?_⟩
  rcases shown with shown | absent
  · exact shown.trans position.symm
  · exact absurd (hidden absent) (by decide)

end SlotBooking
