import SlotBooking.Application.Decision

/-! `RescheduleTicket` once its first checks are passed: what is left is the guard on the slot. -/
namespace SlotBooking

section
variable {σ : Type} {repo : TicketRepository σ} {s : σ} {ports : Ports}
  {input : RescheduleTicketInput} {loaded : LoadedAggregate}

theorem loadOr_ok {missing : QueueError} {id : TicketId} (read : repo.load s id = .ok loaded) :
    loadOr repo missing id s = (.ok loaded, s) := by
  rw [loadOr, Effect.inspect_run, read]
  rfl

theorem loadAs_owned {id : TicketId} {handle : Option CustomerHandle}
    (read : repo.load s id = .ok loaded) (owned : loaded.state.Owned handle) :
    loadAs repo id handle s = (.ok loaded, s) := by
  have found : loadOr repo .ticketNotFound id s = (.ok loaded, s) := loadOr_ok read
  cases handle with
  | none => exact found
  | some given =>
    have same := owned given rfl
    refine (Effect.bind_ok found).trans ?_
    simp [same]

/-- A ticket which `RescheduleTicket` may move: it is the caller's, active and booked. -/
structure Reschedulable (reads : Reads) (input : RescheduleTicketInput) (loaded : LoadedAggregate)
    (source : Instant) : Prop where
  read : reads.load input.ticketId = .ok loaded
  owned : loaded.state.Owned input.handle
  active : loaded.state.state.isActive
  lane : loaded.state.lane = .reservation
  booked : loaded.state.appointmentAt = some source

/-- What is left to do with the listed tickets: the guard on the slot, and the move. -/
def moveIfFree (repo : TicketRepository σ) (ports : Ports) (input : RescheduleTicketInput)
    (loaded : LoadedAggregate) (all : List Ticket) : Effect σ QueueError Ticket :=
  match occupancyExcludingSelf (.ofTickets all) loaded.state.id input.newSlot input.tz with
  | none => .fail .defect
  | some occupancy =>
    if input.capacity ≤ occupancy then
      .fail (.slotFull input.newSlot.date input.newSlot.bucketId input.newSlot.granularity
        input.capacity)
    else applyAndPersist repo loaded (applyReschedule loaded.state input.newAppointmentAt
      (ports.nowInstant 1) (ports.newTicketEventId 0) input.actor)

/-- A request which may move its ticket is left to the clock, and then to the guard. -/
theorem rescheduleTicket_reached {source : Instant}
    (reschedulable : Reschedulable (repo.reads s) input loaded source) :
    rescheduleTicket repo ports input s =
      if input.newAppointmentAt.epochNs < (ports.nowInstant 0).epochNs then
        (.error (.slotInPast input.newAppointmentAt), s)
      else if input.newAppointmentAt.epochNs = source.epochNs then (.ok loaded.state, s)
      else (Effect.inspect repo.listAll >>= moveIfFree repo ports input loaded) s := by
  obtain ⟨found, owned, active, lane, booked⟩ := reschedulable
  have open_ : loaded.state.state.isTerminal = false := by
    simpa [TicketState.isActive] using active
  have ran : rescheduleTicket repo ports input s = _ := Effect.bind_ok (loadAs_owned found owned)
  rw [ran]
  simp only [open_, Bool.false_eq_true, if_false, lane, ne_eq, not_true_eq_false, booked]
  split
  · rfl
  · split
    · rfl
    · rfl

/-- A move ahead of the clock to another instant is decided by the guard on the slot. -/
theorem rescheduleTicket_lists {source : Instant}
    (reschedulable : Reschedulable (repo.reads s) input loaded source)
    (ahead : ¬ input.newAppointmentAt.epochNs < (ports.nowInstant 0).epochNs)
    (elsewhere : input.newAppointmentAt.epochNs ≠ source.epochNs) :
    rescheduleTicket repo ports input s =
      (Effect.inspect repo.listAll >>= moveIfFree repo ports input loaded) s := by
  rw [rescheduleTicket_reached reschedulable, if_neg ahead, if_neg elsewhere]

theorem rescheduleTicket_guarded {source : Instant}
    (reschedulable : Reschedulable (repo.reads s) input loaded source)
    (ahead : ¬ input.newAppointmentAt.epochNs < (ports.nowInstant 0).epochNs)
    (elsewhere : input.newAppointmentAt.epochNs ≠ source.epochNs) {all : List Ticket}
    (listed : repo.listAll s = .ok all) :
    rescheduleTicket repo ports input s = moveIfFree repo ports input loaded all s := by
  rw [rescheduleTicket_lists reschedulable ahead elsewhere]
  exact Effect.bind_ok ((Effect.inspect_run _ _).trans (by rw [listed]))

theorem rescheduleTicket_run {source : Instant}
    (reschedulable : Reschedulable (repo.reads s) input loaded source)
    (ahead : ¬ input.newAppointmentAt.epochNs < (ports.nowInstant 0).epochNs)
    (elsewhere : input.newAppointmentAt.epochNs ≠ source.epochNs) {all : List Ticket}
    (listed : repo.listAll s = .ok all) {occupancy : Nat}
    (counted : occupancyExcludingSelf (.ofTickets all) loaded.state.id input.newSlot input.tz =
      some occupancy) (free : ¬ input.capacity ≤ occupancy) :
    rescheduleTicket repo ports input s =
      applyAndPersist repo loaded (applyReschedule loaded.state input.newAppointmentAt
        (ports.nowInstant 1) (ports.newTicketEventId 0) input.actor) s := by
  rw [rescheduleTicket_guarded reschedulable ahead elsewhere listed, moveIfFree, counted]
  simp only [free, if_false]

/-- A request for the instant a ticket has leaves everything as it is, and only the clock can
refuse it. -/
theorem rescheduleTicket_same {source : Instant}
    (reschedulable : Reschedulable (repo.reads s) input loaded source)
    (same : input.newAppointmentAt = source) :
    rescheduleTicket repo ports input s =
      if source.epochNs < (ports.nowInstant 0).epochNs then (.error (.slotInPast source), s)
      else (.ok loaded.state, s) := by
  rw [rescheduleTicket_reached reschedulable, same, if_pos rfl]

/-! ### What a successful call has done -/

theorem loadOr_eq_ok {m : σ} {missing : QueueError} {id : TicketId}
    (ran : loadOr repo missing id s = (.ok loaded, m)) : repo.load s id = .ok loaded ∧ m = s := by
  rw [loadOr, Effect.inspect_run] at ran
  cases read : repo.load s id with
  | error e =>
    rw [read] at ran
    cases ran
  | ok found =>
    rw [read] at ran
    cases ran
    exact ⟨rfl, rfl⟩

theorem loadAs_eq_ok {m : σ} {id : TicketId} {handle : Option CustomerHandle}
    (ran : loadAs repo id handle s = (.ok loaded, m)) :
    repo.load s id = .ok loaded ∧ loaded.state.Owned handle ∧ m = s := by
  cases handle with
  | none =>
    obtain ⟨read, same⟩ := loadOr_eq_ok (show loadOr repo _ id s = _ from ran)
    exact ⟨read, nofun, same⟩
  | some given =>
    obtain ⟨found, between, first, rest⟩ := Effect.bind_eq_ok ran
    obtain ⟨read, rfl⟩ := loadOr_eq_ok first
    by_cases same : equalsCustomerHandle found.state.handle given = true
    · simp only [same, Bool.not_true, Bool.false_eq_true, if_false] at rest
      cases rest
      exact ⟨read, fun other h => by cases h; exact same, rfl⟩
    · simp only [same, Bool.not_false, if_true] at rest
      cases rest

/-- What a move to another instant has found and written. -/
structure Rescheduled (repo : TicketRepository σ) (ports : Ports) (input : RescheduleTicketInput)
    (s s' : σ) (loaded : LoadedAggregate) (result : ApplyResult) : Prop where
  admitted : Admitted (repo.reads s) ports input loaded.state
  applied : applyReschedule loaded.state input.newAppointmentAt (ports.nowInstant 1)
    (ports.newTicketEventId 0) input.actor = some result
  saved : repo.save loaded.state.id loaded.revision [result.event] result.ticket s = (.ok (), s')

/-- What no guard before the listing refuses is a move of a ticket it may move, ahead of the
clock. -/
theorem rescheduleTicket_passed {s' : σ} {r : Except QueueError Ticket}
    (ran : rescheduleTicket repo ports input s = (r, s')) :
    (∃ e, r = .error e ∧
      (e = .defect → loadAs repo input.ticketId input.handle s = (.error e, s'))) ∨
    ∃ loaded source, Reschedulable (repo.reads s) input loaded source ∧
      ¬ input.newAppointmentAt.epochNs < (ports.nowInstant 0).epochNs := by
  obtain ⟨first, m, looked⟩ : ∃ first m, loadAs repo input.ticketId input.handle s = (first, m) :=
    ⟨_, _, rfl⟩
  cases first with
  | error e =>
    have failed : rescheduleTicket repo ports input s = (.error e, m) := Effect.bind_error looked
    cases failed.symm.trans ran
    exact .inl ⟨e, rfl, fun _ => looked⟩
  | ok loaded =>
    obtain ⟨read, owned, rfl⟩ := loadAs_eq_ok looked
    have rest : rescheduleTicket repo ports input m = _ := Effect.bind_ok looked
    rw [ran] at rest
    dsimp only at rest
    split at rest
    · cases rest
      exact .inl ⟨_, rfl, by simp⟩
    rename_i open_
    split at rest
    · cases rest
      exact .inl ⟨_, rfl, by simp⟩
    rename_i reserved
    have active : loaded.state.state.isActive := by simpa [TicketState.isActive] using open_
    cases booked : loaded.state.appointmentAt with
    | none =>
      simp only [booked] at rest
      cases rest
      exact .inl ⟨_, rfl, by simp⟩
    | some source =>
      simp only [booked] at rest
      split at rest
      · cases rest
        exact .inl ⟨_, rfl, by simp⟩
      rename_i ahead
      exact .inr ⟨loaded, source, ⟨read, owned, active, not_not.mp reserved, booked⟩, ahead⟩

/-- A request succeeds on a ticket it may move: it finds the ticket where it is wanted, or
moves it there. -/
theorem rescheduleTicket_ok {s' : σ} {t : Ticket}
    (ran : rescheduleTicket repo ports input s = (.ok t, s')) :
    ∃ loaded source, Reschedulable (repo.reads s) input loaded source ∧
      ¬ input.newAppointmentAt.epochNs < (ports.nowInstant 0).epochNs ∧
      ((input.newAppointmentAt = source ∧ t = loaded.state ∧ s' = s) ∨
        ∃ result, Rescheduled repo ports input s s' loaded result ∧ t = result.ticket) := by
  rcases rescheduleTicket_passed ran with ⟨e, failed, _⟩ | ⟨loaded, source, reschedulable, ahead⟩
  · cases failed
  refine ⟨loaded, source, reschedulable, ahead, ?_⟩
  by_cases same : input.newAppointmentAt = source
  · rw [rescheduleTicket_same reschedulable same, ← same, if_neg ahead] at ran
    cases ran
    exact .inl ⟨same, rfl, rfl⟩
  have elsewhere : input.newAppointmentAt.epochNs ≠ source.epochNs :=
    fun time => same (Instant.eq_of_epochNs time)
  rw [rescheduleTicket_lists reschedulable ahead elsewhere] at ran
  obtain ⟨all, after, listing, rest⟩ := Effect.bind_eq_ok ran
  obtain ⟨listed, rfl⟩ := Prod.mk.inj listing
  rw [moveIfFree] at rest
  obtain ⟨occupancy, counted⟩ : ∃ occupancy, occupancyExcludingSelf (.ofTickets all)
      loaded.state.id input.newSlot input.tz = some occupancy := by
    cases counted : occupancyExcludingSelf (.ofTickets all) loaded.state.id input.newSlot
        input.tz with
    | none =>
      rw [counted] at rest
      cases rest
    | some occupancy => exact ⟨occupancy, rfl⟩
  simp only [counted] at rest
  split at rest
  · cases rest
  rename_i room
  obtain ⟨result, applied⟩ : ∃ result, applyReschedule loaded.state input.newAppointmentAt
      (ports.nowInstant 1) (ports.newTicketEventId 0) input.actor = some result := by
    rw [applyReschedule, reschedulable.booked]
    exact ⟨_, rfl⟩
  rw [applied] at rest
  obtain ⟨done, last, saved, rest⟩ := Effect.bind_eq_ok rest
  cases rest
  have moved : ∀ source', loaded.state.appointmentAt = some source' →
      input.newAppointmentAt.epochNs ≠ source'.epochNs := by
    intro source' same
    cases reschedulable.booked.symm.trans same
    exact elsewhere
  exact .inr ⟨result, ⟨⟨reschedulable.owned, reschedulable.active, reschedulable.lane, ahead, moved,
    all, occupancy, listed, counted, room⟩, applied, saved⟩, rfl⟩

end

end SlotBooking
