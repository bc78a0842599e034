import SlotBooking.Shop.QueueViews

/-! What the public learns of the customers. Two stores that differ in the texts of the customers
only look the same from outside. -/
namespace SlotBooking

/-- The row without the customer's texts, in the columns and in the payload. -/
def TicketRow.anonymous (r : TicketRow) : TicketRow :=
  { r with
    nameKana := none, phoneLast4 := none, freeText := none,
    payload := ⟨r.payload.json.anonymous⟩ }

/-- The ticket tables differ in `nameKana`, `phoneLast4` and `freeText` only. -/
def DurableStore.SameButTexts (s s' : DurableStore) : Prop :=
  s.tickets.map TicketRow.anonymous = s'.tickets.map TicketRow.anonymous

section
variable {xs ys : List Ticket} (same : xs.map Ticket.anonymous = ys.map Ticket.anonymous)
include same

/-- Two lists alike but for the texts, seen through a function that does not look at them. -/
theorem map_of_anonymous {β : Type} {f : Ticket → β} (blind : ∀ t, f t.anonymous = f t) :
    xs.map f = ys.map f := by
  have through : ∀ zs : List Ticket, zs.map f = (zs.map Ticket.anonymous).map f := by
    intro zs
    rw [List.map_map]
    exact List.map_congr_left (fun t _ => (blind t).symm)
  rw [through xs, through ys, same]

theorem byDisplaySeq_anonymous (state : TicketState) :
    (byDisplaySeq state xs).map Ticket.anonymous = (byDisplaySeq state ys).map Ticket.anonymous := by
  have through : ∀ zs : List Ticket, (byDisplaySeq state zs).map Ticket.anonymous =
      byDisplaySeq state (zs.map Ticket.anonymous) := by
    intro zs
    rw [byDisplaySeq, byDisplaySeq, List.filter_map]
    exact List.map_insertionSort _ _ _ _ (fun _ _ _ _ => Iff.rfl)
  rw [through xs, through ys, same]

theorem laneCounts_anonymous : laneCounts xs = laneCounts ys := by
  have through : ∀ zs : List Ticket, laneCounts zs = laneCounts (zs.map Ticket.anonymous) := by
    intro zs
    rw [laneCounts, laneCounts, List.countP_map, List.countP_map]
    rfl
  rw [through xs, through ys, same]

theorem nextDeadline_of_anonymous : nextDeadline xs = nextDeadline ys := by
  rw [← nextDeadline_anonymous xs, same, nextDeadline_anonymous]

theorem reservationStartMs_anonymous : reservationStartMs xs = reservationStartMs ys := by
  have through : ∀ zs : List Ticket, reservationStartMs zs =
      reservationStartMs (zs.map Ticket.anonymous) := by
    intro zs
    simp only [reservationStartMs]
    rw [List.filter_map, List.filterMap_map]
    rfl
  rw [through xs, through ys, same]

end

section
variable {u : Unicode} {scan scan' : List TicketRow → List TicketRow} {s s' : DurableStore}

theorem SameButTexts.listTickets (same : s.SameButTexts s') :
    s.listTickets.map Ticket.anonymous = s'.listTickets.map Ticket.anonymous := by
  have through : ∀ s : DurableStore, s.listTickets.map Ticket.anonymous =
      ((s.tickets.map TicketRow.anonymous).insertionSort (fun a b => a.seq ≤ b.seq)).map
        (fun r => r.payload.json) := by
    intro s
    rw [← List.map_insertionSort (fun a b : TicketRow => a.seq ≤ b.seq) _ TicketRow.anonymous _
      (fun _ _ _ _ => Iff.rfl), DurableStore.listTickets, List.map_map, List.map_map]
    rfl
  rw [through s, through s', same]

theorem view_anonymous (same : s.SameButTexts s') {showOverdue : Ticket → TicketView}
    (blind : ∀ t, showOverdue t.anonymous = showOverdue t) (deadline : Option String) :
    s.view showOverdue deadline = s'.view showOverdue deadline := by
  have sorted := fun state => byDisplaySeq_anonymous (SameButTexts.listTickets same) state
  have lengths : (byDisplaySeq .waiting s.listTickets).length =
      (byDisplaySeq .waiting s'.listTickets).length := by
    simpa using congrArg List.length (sorted .waiting)
  have preview : ((byDisplaySeq .waiting s.listTickets).take 10).map Ticket.anonymous =
      ((byDisplaySeq .waiting s'.listTickets).take 10).map Ticket.anonymous := by
    rw [List.map_take, List.map_take, sorted]
  rw [DurableStore.view, DurableStore.view, lengths, laneCounts_anonymous (sorted .waiting),
    map_of_anonymous (f := projectAnonymous) (sorted .called) (fun _ => rfl),
    map_of_anonymous (sorted .overdue) blind,
    map_of_anonymous (f := projectAnonymous) preview (fun _ => rfl)]

/-- The Waiting rows in the order in which the database gives them. -/
def DurableStore.waitingRows (s : DurableStore) (scan : List TicketRow → List TicketRow) :
    List TicketRow :=
  scan (s.tickets.filter (fun r => r.state = .waiting))

/-- The order of the rows has no part in what a client may learn: either it is the same in both
stores, or no two rows are of one ticket, as the primary key has it. -/
def OrderHarmless (scan scan' : List TicketRow → List TicketRow) (s s' : DurableStore) : Prop :=
  (s.waitingRows scan).map TicketRow.anonymous = (s'.waitingRows scan').map TicketRow.anonymous ∨
    (s.tickets.map (fun r => r.payload.json.id)).Nodup

theorem waitingRows_deadline (same : s.SameButTexts s')
    (scanned : ∀ rows, (scan rows).Perm rows) (scanned' : ∀ rows, (scan' rows).Perm rows)
    (order : OrderHarmless scan scan' s s') :
    nextDeadline ((s.waitingRows scan).map (fun r => r.payload.json.anonymous)) =
      nextDeadline ((s'.waitingRows scan').map (fun r => r.payload.json.anonymous)) := by
  have rows : ∀ rows : List TicketRow, rows.map (fun r => r.payload.json.anonymous) =
      (rows.map TicketRow.anonymous).map (fun r => r.payload.json) := by
    intro rows
    rw [List.map_map]
    rfl
  rcases order with alike | distinct
  · rw [rows, rows, alike]
  · have table : (s.tickets.filter (fun r => r.state = .waiting)).map TicketRow.anonymous =
        (s'.tickets.filter (fun r => r.state = .waiting)).map TicketRow.anonymous := by
      have through : ∀ s : DurableStore,
          (s.tickets.filter (fun r => r.state = .waiting)).map TicketRow.anonymous =
            (s.tickets.map TicketRow.anonymous).filter (fun r => r.state = .waiting) := by
        intro s
        rw [List.filter_map]
        rfl
      rw [through s, through s', same]
    have perm : ((s.waitingRows scan).map TicketRow.anonymous).Perm
        ((s'.waitingRows scan').map TicketRow.anonymous) := by
      have first := (scanned (s.tickets.filter (fun r => r.state = .waiting))).map
        TicketRow.anonymous
      have second := (scanned' (s'.tickets.filter (fun r => r.state = .waiting))).map
        TicketRow.anonymous
      rw [table] at first
      exact first.trans second.symm
    rw [rows, rows]
    apply nextDeadline_perm (perm.map _)
    rw [List.map_map, List.map_map]
    have sub := (scanned (s.tickets.filter (fun r => r.state = .waiting))).map
      (fun r => r.payload.json.id)
    exact sub.nodup_iff.mpr (distinct.sublist (List.filter_sublist.map _))

theorem feed_anonymous (same : s.SameButTexts s')
    (decodes : ∀ r ∈ s.tickets, decodeTicketRowPayload u r.payload ≠ none)
    (decodes' : ∀ r ∈ s'.tickets, decodeTicketRowPayload u r.payload ≠ none)
    (scanned : ∀ rows, (scan rows).Perm rows) (scanned' : ∀ rows, (scan' rows).Perm rows)
    (order : OrderHarmless scan scan' s s') :
    projectionPayload u scan s = projectionPayload u scan' s' := by
  obtain ⟨listed, read⟩ := scanned_decodes scanned decodes
  obtain ⟨listed', read'⟩ := scanned_decodes scanned' decodes'
  have deadline : nextDeadline listed = nextDeadline listed' := by
    rw [← nextDeadline_anonymous listed, ← nextDeadline_anonymous listed', decoded_anonymous read,
      decoded_anonymous read']
    exact waitingRows_deadline same scanned scanned' order
  rw [projectionPayload_eq read, projectionPayload_eq read', deadline]
  have views := @view_anonymous s s' same projectOverdue (fun _ => rfl)
  exact congrArg some (views (nextDeadline listed'))

theorem route_anonymous (same : s.SameButTexts s')
    (decodes : ∀ r ∈ s.tickets, decodeTicketRowPayload u r.payload ≠ none)
    (decodes' : ∀ r ∈ s'.tickets, decodeTicketRowPayload u r.payload ≠ none) :
    queueRoute u s = queueRoute u s' := by
  obtain ⟨waiting, decoded⟩ := listed_decodes decodes
  obtain ⟨waiting', decoded'⟩ := listed_decodes decodes'
  have sorted := byDisplaySeq_anonymous (SameButTexts.listTickets same) .waiting
  have deadline : nextDeadline waiting = nextDeadline waiting' := by
    apply nextDeadline_of_anonymous
    rw [decoded_anonymous decoded, decoded_anonymous decoded']
    exact sorted
  rw [queueRoute_eq decoded, queueRoute_eq decoded', deadline]
  have views := @view_anonymous s s' same projectAnonymous (fun _ => rfl)
  exact congrArg some (views (nextDeadline waiting'))

end

/-- The public views of two stores which differ in the customers' texts only are the same. -/
theorem public_views_anonymous (u : Unicode) (s s' : DurableStore) (same : s.SameButTexts s')
    (decodes : ∀ r ∈ s.tickets, decodeTicketRowPayload u r.payload ≠ none)
    (decodes' : ∀ r ∈ s'.tickets, decodeTicketRowPayload u r.payload ≠ none)
    (scan scan' : List TicketRow → List TicketRow)
    (scanned : ∀ rows, (scan rows).Perm rows) (scanned' : ∀ rows, (scan' rows).Perm rows)
    (order : OrderHarmless scan scan' s s') :
    queueRoute u s = queueRoute u s' ∧ projectionPayload u scan s = projectionPayload u scan' s' ∧
      ∀ tz capacity first last g, slotsRoute s.listTickets tz capacity first last g =
        slotsRoute s'.listTickets tz capacity first last g := by
  refine ⟨route_anonymous same decodes decodes',
    feed_anonymous same decodes decodes' scanned scanned' order, ?_⟩
  intro tz capacity first last g
  rw [slotsRoute, slotsRoute, reservationStartMs_anonymous (SameButTexts.listTickets same)]

theorem public_views_anonymous_sample :
    let s := runDispatches Sample.unicode Sample.noInstants
      [(Sample.ports 1, .issueTicket Sample.handle none none none)] .empty
    let s' := runDispatches Sample.unicode Sample.noInstants
      [(Sample.ports 1, .issueTicket Sample.otherHandle none none none)] .empty
    queueRoute Sample.unicode s = queueRoute Sample.unicode s' ∧
      projectionPayload Sample.unicode id s = projectionPayload Sample.unicode List.reverse s' ∧
        ∀ tz capacity first last g, slotsRoute s.listTickets tz capacity first last g =
          slotsRoute s'.listTickets tz capacity first last g :=
  public_views_anonymous Sample.unicode _ _ (by unfold DurableStore.SameButTexts; decide)
    (by decide) (by decide) id List.reverse (fun rows => .refl rows) List.reverse_perm
    (.inr (by decide))

end SlotBooking
