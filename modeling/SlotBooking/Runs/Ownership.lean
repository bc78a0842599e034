import SlotBooking.Application.Rescheduling
import SlotBooking.Runs.Commands

/-! Commands on one ticket: they change that ticket or none, and with a handle that is not the
ticket's they change none. -/
namespace SlotBooking

/-- A check-in which goes through: the ticket waits, its window is open, the event id is new. -/
def Arrives (u : Unicode) (ports : Ports) (id : TicketId) (s : DurableStore) : Prop :=
  ∃ t revision appointmentAt, Durable.load u s id = .ok ⟨⟨t, .waiting⟩, revision⟩ ∧
    t.appointmentAt = some appointmentAt ∧ checkInOpen appointmentAt (ports.nowInstant 0) ∧
    ports.newTicketEventId 0 ∉ s.ticketEvents.map EventRow.id

section
variable {u : Unicode} {interval : Nat} {s s' : DurableStore} {id : TicketId} {ports : Ports}
  {c : UseCase}

theorem call_own (kept : s.Kept) (ports : Ports) (target : c.target = some id) :
    (c.run (Durable.repository u interval) ports s).2 = s ∨ ∃ loaded result,
      loaded.state.id = id ∧ Durable.load u s id = .ok loaded ∧
        Moved u interval s (c.run (Durable.repository u interval) ports s).2 loaded result := by
  have commit := @call_commit u interval s kept ports c
  generalize (c.run (Durable.repository u interval) ports s).2 = s' at commit ⊢
  cases commit with
  | unchanged => exact .inl rfl
  | issued | called => cases target
  | moved _ loaded result _ applies step =>
    have own : loaded.state.id = id := by
      have named : ∀ {other}, c.target = some other → Durable.load u s other = .ok loaded →
          loaded.state.id = id := by
        intro other same read
        cases target.symm.trans same
        exact load_id kept.tidy (kept.outlined id) read
      cases applies with
      | callNext => cases target
      | callSpecific _ _ _ _ read | cancelTicket _ _ _ _ _ _ _ _ read
      | moveToOverdue _ _ _ _ read | nudge _ _ _ _ _ _ read | checkIn _ _ _ read
      | lapseAppointment _ _ _ _ _ read | rescheduleTicket _ _ _ read =>
        exact named rfl read
      | markServed _ _ _ _ _ _ read => exact named rfl read
      | markNoShow _ _ _ _ _ _ _ read => exact named rfl read
      | «recall» _ _ _ _ _ _ _ read => exact named rfl read
    exact .inr ⟨loaded, result, own, own ▸ step.read, step⟩

/-! ### Strangers -/

theorem loadAs_stranger {σ : Type} {repo : TicketRepository σ} {t : σ} {loaded : LoadedAggregate}
    {given : CustomerHandle} (read : repo.load t id = .ok loaded)
    (stranger : loaded.state.handle ≠ given) :
    loadAs repo id (some given) t = (.error .phoneMismatch, t) := by
  have different : equalsCustomerHandle loaded.state.handle given = false := by
    rw [← Bool.not_eq_true, equalsCustomerHandle_iff]
    exact stranger
  refine (Effect.bind_ok (loadOr_ok read)).trans ?_
  simp only [different]
  rfl

theorem cancelTicket_stranger {loaded : LoadedAggregate} {given : CustomerHandle}
    (read : Durable.load u s id = .ok loaded) (stranger : loaded.state.handle ≠ given)
    (actor : Actor) (reason : String) :
    ((UseCase.cancelTicket id actor reason (some given)).run (Durable.repository u interval) ports
      s).2 = s := by
  have ended : cancelTicket (Durable.repository u interval) ports id actor reason (some given) s =
      (.error .phoneMismatch, s) := Effect.bind_error (loadAs_stranger read stranger)
  have ran : (UseCase.cancelTicket id actor reason (some given)).run
      (Durable.repository u interval) ports s = (.error .phoneMismatch, s) := Effect.bind_error ended
  rw [ran]

theorem rescheduleTicket_stranger {input : RescheduleTicketInput} {loaded : LoadedAggregate}
    {given : CustomerHandle} (read : Durable.load u s input.ticketId = .ok loaded)
    (handle : input.handle = some given) (stranger : loaded.state.handle ≠ given) :
    ((UseCase.rescheduleTicket input).run (Durable.repository u interval) ports s).2 = s := by
  have refused : loadAs (Durable.repository u interval) input.ticketId input.handle s =
      (.error .phoneMismatch, s) := handle ▸ loadAs_stranger read stranger
  have ended : rescheduleTicket (Durable.repository u interval) ports input s =
      (.error .phoneMismatch, s) := Effect.bind_error refused
  have ran : (UseCase.rescheduleTicket input).run (Durable.repository u interval) ports s =
      (.error .phoneMismatch, s) := Effect.bind_error ended
  rw [ran]

/-! ### Check-ins -/

theorem Arrives.moved (kept : s.Kept) (arrives : Arrives u ports id s) :
    ∃ loaded result, loaded.state.id = id ∧ Moved u interval s
      ((UseCase.checkIn id).run (Durable.repository u interval) ports s).2 loaded result := by
  obtain ⟨t, revision, appointmentAt, read, booked, ⟨earliest, bound, inTime⟩, fresh⟩ := arrives
  have own : t.id = id := load_id kept.tidy (kept.outlined id) read
  have found : loadOr (Durable.repository u interval) .ticketNotFound id s =
      (.ok ⟨⟨t, .waiting⟩, revision⟩, s) := loadOr_ok read
  obtain ⟨s', done, moved⟩ := @save_fresh u interval s kept ⟨⟨t, .waiting⟩, revision⟩
    (applyCheckIn t (ports.nowInstant 1) (ports.newTicketEventId 0) .customer) (kept.load_self read)
    (.checkIn t _ _ _) fresh
  have ran : checkIn (Durable.repository u interval) ports id s = (.ok (), s') := by
    refine (Effect.bind_ok found).trans ?_
    simp only [booked, bound, if_neg inTime]
    exact Effect.bind_ok (Effect.bind_ok done)
  have ended : (UseCase.checkIn id).run (Durable.repository u interval) ports s =
      (.ok .undefined, s') := Effect.bind_ok ran
  rw [ended]
  exact ⟨_, _, own, moved⟩

theorem checkIn_changes_iff (kept : s.Kept) :
    ((UseCase.checkIn id).run (Durable.repository u interval) ports s).2 ≠ s ↔
      Arrives u ports id s := by
  constructor
  · obtain ⟨d, decides, applies, runs⟩ :=
      @settled ((Durable.repository u interval).reads s) ports (.checkIn id)
    have ran : (UseCase.checkIn id).run (Durable.repository u interval) ports s = _ :=
      runs DurableStore (Durable.repository u interval) s rfl
    rw [ran]
    intro changed
    cases decides with
    | refuse => exact absurd rfl changed
    | save _ other saves loaded result read move minted unlike =>
      cases applies _ _ _ rfl with
      | checkIn => exact absurd rfl unlike
    | checkIn _ t revision appointmentAt read booked inWindow =>
      refine ⟨t, revision, appointmentAt, read, booked, inWindow, fun used => changed ?_⟩
      rcases @save_outcome u interval s kept ⟨⟨t, .waiting⟩, revision⟩
        (applyCheckIn t (ports.nowInstant 1) (ports.newTicketEventId 0) .customer)
        (kept.load_self read) (.checkIn t _ _ _) with ⟨s', done, moved⟩ | ⟨⟨e, failed⟩, _⟩
      · obtain ⟨r, mem, same⟩ := List.mem_map.mp used
        exact absurd (.inl same) (moved.accepts.admits.free r mem _ List.mem_cons_self)
      · exact congrArg Prod.snd (Effect.bind_error failed)
  · intro arrives same
    obtain ⟨loaded, result, _, moved⟩ := @Arrives.moved u interval s id ports kept arrives
    rw [same] at moved
    exact moved.changes kept ⟨rfl, rfl, rfl⟩

end

end SlotBooking
