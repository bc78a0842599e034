import SlotBooking.Application.Rescheduling
import SlotBooking.Runs.Reloads

/-! Rescheduling onto the slot a ticket already has. The clock is asked before the instants are
compared, so that a no-op is refused once its appointment has passed. -/
namespace SlotBooking

/-- The ticket already has the requested appointment, its next write takes no snapshot, or its
texts come back from a snapshot as they are. -/
def Rereads (u : Unicode) (interval : Nat) (s : DurableStore) (input : RescheduleTicketInput) :
    Prop :=
  ∀ loaded, Durable.load u s input.ticketId = .ok loaded →
    loaded.state.appointmentAt = some input.newAppointmentAt ∨
      (loaded.revision + 1) % interval ≠ 0 ∨ Canonical u loaded.state.toCustomerFields

section
variable {u : Unicode} {interval : Nat} {s s' : DurableStore} {ports later : Ports}
  {input : RescheduleTicketInput} {loaded : LoadedAggregate} {result : ApplyResult}

theorem Rescheduled.moved (done : Rescheduled (Durable.repository u interval) ports input s s'
    loaded result) (kept : s.Kept) (read : Durable.load u s input.ticketId = .ok loaded) :
    Moved u interval s s' loaded result := by
  have move := Move.reschedule loaded.state done.admitted.active done.admitted.lane _ _ _ _ _
    done.applied
  have saved : Durable.save interval loaded.state.id loaded.revision [result.event] result.ticket s =
      (.ok (), s') := done.saved
  rcases save_outcome kept (kept.load_self read) move with ⟨after, ran, moved⟩ | ⟨⟨e, failed⟩, _⟩
  · cases saved.symm.trans ran
    exact moved
  · cases saved.symm.trans failed

theorem same_slot_iff {source : Instant}
    (reschedulable : Reschedulable ((Durable.repository u interval).reads s) input loaded source)
    (same : input.newAppointmentAt = source) :
    rescheduleTicket (Durable.repository u interval) ports input s = (.ok loaded.state, s) ↔
      ¬ source.epochNs < (ports.nowInstant 0).epochNs := by
  rw [rescheduleTicket_same reschedulable same]
  split
  · rename_i past
    exact ⟨nofun, fun ahead => absurd past ahead⟩
  · rename_i ahead
    exact ⟨fun _ => ahead, fun _ => rfl⟩

theorem Rescheduled.same_slot {source : Instant}
    (done : Rescheduled (Durable.repository u interval) ports input s s' loaded result)
    (kept : s.Kept)
    (reschedulable : Reschedulable ((Durable.repository u interval).reads s) input loaded source)
    (reread : Durable.load u s' loaded.state.id = .ok ⟨result.ticket, loaded.revision + 1⟩) :
    Reschedulable ((Durable.repository u interval).reads s') input
      ⟨result.ticket, loaded.revision + 1⟩ input.newAppointmentAt := by
  obtain ⟨found, owned, active, lane, booked⟩ := reschedulable
  have id : loaded.state.id = input.ticketId := load_id kept.tidy (kept.outlined _) found
  obtain ⟨_, _, rfl⟩ := applyReschedule_eq_some done.applied
  exact ⟨id ▸ reread, owned, active, lane, rfl⟩

theorem Rescheduled.rereads_iff
    (done : Rescheduled (Durable.repository u interval) ports input s s' loaded result)
    (read : Durable.load u s input.ticketId = .ok loaded) : Rereads u interval s input ↔
      ((loaded.revision + 1) % interval = 0 → Canonical u loaded.state.toCustomerFields) := by
  constructor
  · intro rereads due
    rcases rereads loaded read with booked | between | canonical
    · exact absurd rfl (done.admitted.elsewhere _ booked)
    · exact absurd due between
    · exact canonical
  · intro canonical loaded' read'
    cases read.symm.trans read'
    exact .inr (or_iff_not_imp_left.mpr (fun due => canonical (not_not.mp due)))

/-- A successful request, made once more. -/
theorem reschedule_repeats_iff {t : Ticket} (kept : s.Kept)
    (ran : rescheduleTicket (Durable.repository u interval) ports input s = (.ok t, s')) :
    rescheduleTicket (Durable.repository u interval) later input s' = (.ok t, s') ↔
      ¬ input.newAppointmentAt.epochNs < (later.nowInstant 0).epochNs ∧
        Rereads u interval s input := by
  obtain ⟨loaded, source, reschedulable, _, done⟩ := rescheduleTicket_ok ran
  have read : Durable.load u s input.ticketId = .ok loaded := reschedulable.read
  rcases done with ⟨same, rfl, rfl⟩ | ⟨result, done, rfl⟩
  · have rereads : Rereads u interval s' input := by
      intro loaded' read'
      cases read.symm.trans read'
      exact .inl (same ▸ reschedulable.booked)
    rw [same_slot_iff reschedulable same, same]
    exact ⟨fun ahead => ⟨ahead, rereads⟩, fun both => both.1⟩
  · have moved := done.moved kept read
    have keptNext := moved.kept kept
    have evolves : evolve (some loaded.state) result.event = some result.ticket := by
      apply moved.move.evolve_eq
      obtain ⟨_, _, rfl⟩ := applyReschedule_eq_some done.applied
      exact nofun
    have reload := moved.load_iff kept evolves
    rw [done.rereads_iff read, ← reload]
    constructor
    · intro again
      obtain ⟨loaded', source', reschedulable', ahead, done'⟩ := rescheduleTicket_ok again
      have id : loaded.state.id = input.ticketId := load_id kept.tidy (kept.outlined _) read
      have read' : Durable.load u s' loaded.state.id = .ok loaded' := id ▸ reschedulable'.read
      rcases done' with ⟨_, same, _⟩ | ⟨result', done', _⟩
      · have counted : loaded'.revision = loaded.revision + 1 := by
          rw [← keptNext.current read', moved.store,
            DurableStore.revision_commit kept.tidy.ticketsKeyed moved.move.sameCore.id, if_pos rfl]
          rfl
        obtain ⟨state, revision⟩ := loaded'
        cases same
        cases counted
        exact ⟨ahead, read'⟩
      · exact absurd ⟨rfl, rfl, rfl⟩
          ((done'.moved keptNext reschedulable'.read).changes keptNext)
    · rintro ⟨ahead, reread⟩
      exact (same_slot_iff (done.same_slot kept reschedulable reread) rfl).mpr ahead

end

/-- In every reachable store, rescheduling a ticket onto the appointment it has returns it and
changes nothing if and only if the clock has not passed the appointment; and a successful request
does so once more if and only if that still holds and the texts of the ticket are reread. -/
theorem reschedule_idempotent_iff (u : Unicode) (interval : Nat) (calls : List (Ports × UseCase)) :
    let repo := Durable.repository u interval
    let s := runCalls repo calls .empty
    (∀ ports input loaded source, Reschedulable (repo.reads s) input loaded source →
      input.newAppointmentAt = source →
      (rescheduleTicket repo ports input s = (.ok loaded.state, s) ↔
        ¬ source.epochNs < (ports.nowInstant 0).epochNs)) ∧
    (∀ ports input t s', rescheduleTicket repo ports input s = (.ok t, s') → ∀ later,
      (rescheduleTicket repo later input s' = (.ok t, s') ↔
        ¬ input.newAppointmentAt.epochNs < (later.nowInstant 0).epochNs ∧
          Rereads u interval s input)) := by
  have kept := @kept_run u interval .empty DurableStore.kept_empty calls
  exact ⟨fun _ _ _ _ reschedulable same => same_slot_iff reschedulable same,
    fun _ _ _ _ ran _ => reschedule_repeats_iff kept ran⟩

namespace Sample

def bookedSoon : IssueTicketInput := { reservation with appointmentAt := some (instant 15) }

def soonStore : DurableStore :=
  runCalls (Durable.repository unicode 200) [(ports 1, .issueTicket bookedSoon)] .empty

def soon : LoadedAggregate := ⟨(applyIssue (bookedSoon.args (ports 1) 1 1)).ticket, 1⟩

def greenwich : BusinessTimeZone :=
  ⟨fun _ => 0, fun date => Instant.ofEpochNs (date.epochDay * nsPerDay)⟩

/-- The customer asks for the time the ticket already has. -/
def sameTime : RescheduleTicketInput :=
  { ticketId := ⟨1⟩, newAppointmentAt := instant 15, granularity := .half, tz := greenwich,
    capacity := 1, actor := .customer, handle := some handle }

theorem sameTime_reschedulable :
    Reschedulable ((Durable.repository unicode 200).reads soonStore) sameTime soon (instant 15) where
  read := by
    change Durable.load unicode soonStore ⟨1⟩ = .ok soon
    decide
  owned := by
    intro given same
    cases same
    decide
  active := by decide
  lane := rfl
  booked := rfl

end Sample

/-- At 20 the appointment at 15 has passed, and asking for it again is refused. -/
theorem same_slot_refused :
    Reschedulable ((Durable.repository Sample.unicode 200).reads Sample.soonStore) Sample.sameTime
        Sample.soon (Sample.instant 15) ∧
      Sample.sameTime.newAppointmentAt = Sample.instant 15 ∧
      (rescheduleTicket (Durable.repository Sample.unicode 200) (Sample.ports 2) Sample.sameTime
        Sample.soonStore).1 = .error (.slotInPast (Sample.instant 15)) := by
  refine ⟨Sample.sameTime_reschedulable, rfl, ?_⟩
  decide

/-- At 10 the same request changes nothing, and neither does its repetition at 11. -/
theorem reschedule_idempotent_iff_ahead :
    let later : Ports := { Sample.ports 1 with nowInstant := fun _ => Sample.instant 11 }
    rescheduleTicket (Durable.repository Sample.unicode 200) (Sample.ports 1) Sample.sameTime
        Sample.soonStore = (.ok Sample.soon.state, Sample.soonStore) ∧
      rescheduleTicket (Durable.repository Sample.unicode 200) later Sample.sameTime
        Sample.soonStore = (.ok Sample.soon.state, Sample.soonStore) := by
  intro later
  obtain ⟨noop, again⟩ := reschedule_idempotent_iff Sample.unicode 200
    [(Sample.ports 1, .issueTicket Sample.bookedSoon)]
  have first := (noop (Sample.ports 1) Sample.sameTime Sample.soon (Sample.instant 15)
    Sample.sameTime_reschedulable rfl).mpr (by decide)
  refine ⟨first, (again _ _ _ _ first later).mpr ⟨by decide, ?_⟩⟩
  intro loaded read
  cases Sample.sameTime_reschedulable.read.symm.trans read
  exact .inl rfl

end SlotBooking
