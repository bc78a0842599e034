import SlotBooking.Domain.Moves

/-! The fold and the transitions side by side. An event about a stored ticket replaces it
where it stands, with what the transition returned. -/
namespace SlotBooking

section
variable {snap : QueueSnapshot} {e : TicketEvent} {prior next : Ticket}

theorem QueueSnapshot.present (stored : snap.get e.ticketId = some prior) :
    e.ticketId ∈ snap.tickets.keys := by
  by_contra absent
  have missing := (InsertionMap.get_eq_none_iff snap.tickets e.ticketId).mpr absent
  cases stored.symm.trans missing

/-- An event either sets its ticket or leaves the snapshot as it is. -/
theorem applyEvent_cases (snap : QueueSnapshot) (e : TicketEvent) :
    applyEvent snap e = snap ∨ ∃ t, applyEvent snap e = snap.set e.ticketId t := by
  obtain ⟨id, ticketId, occurredAt, recordedAt, body⟩ := e
  cases body with
  | issued data => exact .inr ⟨_, rfl⟩
  | servingStarted => exact .inl rfl
  | checkedIn =>
    simp only [applyEvent]
    split
    · split
      · exact .inl rfl
      · exact .inr ⟨_, rfl⟩
    · exact .inl rfl
  | rescheduled =>
    simp only [applyEvent]
    split
    · split
      · exact .inl rfl
      · split
        · exact .inl rfl
        · exact .inr ⟨_, rfl⟩
    · exact .inl rfl
  | _ =>
    simp only [applyEvent]
    split
    all_goals first
      | exact .inl rfl
      | exact .inr ⟨_, rfl⟩

theorem keys_applyEvent (stored : snap.get e.ticketId = some prior) :
    (applyEvent snap e).tickets.keys = snap.tickets.keys := by
  rcases applyEvent_cases snap e with same | ⟨t, set⟩
  · rw [same]
  · rw [set]
    exact InsertionMap.keys_set t (QueueSnapshot.present stored)

/-- The whole snapshot after an event, from what the event makes of its own ticket. -/
theorem applyEvent_eq_set (stored : snap.get e.ticketId = some prior)
    (evolved : evolve (some prior) e = some next) :
    applyEvent snap e = snap.set e.ticketId next := by
  have tickets : (applyEvent snap e).tickets = snap.tickets.set e.ticketId next := by
    apply InsertionMap.ext_get
    · rw [keys_applyEvent stored, InsertionMap.keys_set next (QueueSnapshot.present stored)]
    · intro id
      have got := get_applyEvent snap e id
      rw [stored, evolved] at got
      rw [InsertionMap.get_set]
      exact got
  calc applyEvent snap e = ⟨(applyEvent snap e).tickets⟩ := rfl
    _ = snap.set e.ticketId next := by rw [tickets]; rfl

/-- An event leaves a snapshot alone exactly where it leaves its own ticket alone. -/
theorem applyEvent_eq_self_iff (stored : snap.get e.ticketId = some prior) :
    applyEvent snap e = snap ↔ evolve (some prior) e = some prior := by
  constructor
  · intro same
    have got := get_applyEvent snap e e.ticketId
    rw [same, if_pos rfl, stored] at got
    exact got.symm
  · intro evolved
    rw [applyEvent_eq_set stored evolved]
    have tickets : snap.tickets.set e.ticketId prior = snap.tickets := by
      apply InsertionMap.ext_get
      · exact InsertionMap.keys_set prior (QueueSnapshot.present stored)
      · intro id
        rw [InsertionMap.get_set]
        split
        · rename_i own
          rw [own]
          exact stored.symm
        · rfl
    calc snap.set e.ticketId prior = ⟨snap.tickets.set e.ticketId prior⟩ := rfl
      _ = snap := by rw [tickets]

end

/-- Each transition of a stored ticket, and each issue under a fresh id, against the fold of
the event it returns: one entry is replaced where it stands, or one is appended. -/
theorem transitions_lockstep (snap : QueueSnapshot) :
    (∀ t result, snap.get t.id = some t → Move t result →
      (result.event.type = .checkedIn → t.checkedInAt = none) →
        (applyEvent snap result.event).tickets.entries =
          snap.tickets.entries.map
            (fun entry => if entry.1 = t.id then (t.id, result.ticket) else entry)) ∧
    ∀ args, snap.get args.id = none →
      (applyEvent snap (applyIssue args).event).tickets.entries =
        snap.tickets.entries ++ [(args.id, (applyIssue args).ticket)] := by
  constructor
  · intro t result stored move once
    have own : result.event.ticketId = t.id := move.event_ticketId
    rw [← own] at stored
    rw [applyEvent_eq_set stored (move.evolve_eq once), own]
    exact InsertionMap.entries_set result.ticket (own ▸ QueueSnapshot.present stored)
  · intro args fresh
    have absent := (InsertionMap.get_eq_none_iff snap.tickets args.id).mp fresh
    exact InsertionMap.entries_set_absent (applyIssue args).ticket absent

namespace Sample

def firstMinute : Instant := ⟨nsPerMinute, by decide⟩

def issueArgs : IssueArgs :=
  { nameKana := [0x30a2], phoneLast4 := [0x31], freeText := none, id := ⟨1⟩, seq := 1,
    lane := .reservation, displaySeq := 1, appointmentAt := some firstMinute, time := firstMinute,
    eventId := ⟨1⟩ }

def freshTicket : Ticket := (applyIssue issueArgs).ticket

def arrival : ApplyResult := applyCheckIn freshTicket.toTicketCommon firstMinute ⟨2⟩

end Sample

theorem transitions_lockstep_arrived :
    (applyEvent .empty (applyIssue Sample.issueArgs).event).tickets.entries =
      [(Sample.freshTicket.id, Sample.freshTicket)] ∧
    (applyEvent (replay [(applyIssue Sample.issueArgs).event]) Sample.arrival.event).tickets.entries =
      [(Sample.freshTicket.id, Sample.arrival.ticket)] := by
  constructor
  · exact (transitions_lockstep .empty).2 Sample.issueArgs rfl
  · exact (transitions_lockstep (replay [(applyIssue Sample.issueArgs).event])).1 Sample.freshTicket
      Sample.arrival rfl (.checkIn _ _ _ _) (fun _ => rfl)

end SlotBooking
