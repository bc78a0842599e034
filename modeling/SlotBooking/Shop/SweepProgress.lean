import SlotBooking.Application.Rescheduling
import SlotBooking.Shop.Attended
import SlotBooking.Shop.Lateness

/-! What a sweep gets done. An action for a ticket which loads and is due commits, if its event id
is fresh, and afterwards the ticket is no longer due. -/
namespace SlotBooking

section
variable {u : Unicode} {instants : InstantText} {interval : Nat} {s : DurableStore} {ports : Ports}
  {id : TicketId} {channel : Channel} {rules : SweepRules} {tick : Tick}
  {loaded : LoadedAggregate}

theorem persist_fresh (kept : s.Kept) {result : ApplyResult}
    (read : Durable.load u s loaded.state.id = .ok loaded) (move : Move loaded.state result)
    (fresh : result.event.id ∉ s.ticketEvents.map EventRow.id) :
    ∃ s', applyAndPersist (Durable.repository u interval) loaded (some result) s =
        (.ok result.ticket, s') ∧ Moved u interval s s' loaded result := by
  obtain ⟨s', done, moved⟩ := @save_fresh u interval s kept loaded result read move fresh
  exact ⟨s', Effect.bind_ok done, moved⟩

/-- The use case of a tick goes through for a ticket which the tick would select. -/
theorem tick_runs (kept : s.Kept) (read : Durable.load u s id = .ok loaded)
    (due : tick.due rules loaded.state = true)
    (fresh : ports.newTicketEventId 0 ∉ s.ticketEvents.map EventRow.id) : ∃ result s',
      (tick.useCase id channel).run (Durable.repository u interval) ports s =
        (.ok (.ticket result.ticket), s') ∧ Moved u interval s s' loaded result := by
  have found : loadOrTicketNotFound (Durable.repository u interval) id s = (.ok loaded, s) :=
    loadOr_ok read
  have self := kept.load_self read
  obtain ⟨⟨t, variant⟩, revision⟩ := loaded
  cases tick with
  | moveToOverdue =>
    obtain ⟨call, same, _⟩ := due_moveToOverdue.mp due
    cases same
    obtain ⟨s', done, moved⟩ := @persist_fresh u interval s _ kept _ self
      (.moveToOverdue t call (ports.nowInstant 0) (ports.newTicketEventId 0) .system) fresh
    have ran : moveToOverdue (Durable.repository u interval) ports id s = (.ok _, s') :=
      (Effect.bind_ok found).trans done
    exact ⟨_, s', Effect.bind_ok ran, moved⟩
  | nudge =>
    obtain ⟨call, stamp, same, _⟩ := due_nudge.mp due
    cases same
    obtain ⟨s', done, moved⟩ := @persist_fresh u interval s _ kept _ self
      (.nudge t call stamp (ports.nowInstant 0) (ports.newTicketEventId 0) channel .system) fresh
    have ran : nudge (Durable.repository u interval) ports id channel s = (.ok _, s') :=
      (Effect.bind_ok found).trans done
    exact ⟨_, s', Effect.bind_ok ran, moved⟩
  | markNoShow =>
    obtain ⟨call, stamp, _, same, _⟩ := due_markNoShow.mp due
    cases same
    obtain ⟨s', done, moved⟩ := @persist_fresh u interval s _ kept _ self
      (.markNoShow t _ call (.inr ⟨stamp, rfl⟩) (ports.nowInstant 0) (ports.newTicketEventId 0)
        .system) fresh
    have ran : markNoShow (Durable.repository u interval) ports id .system s = (.ok _, s') :=
      (Effect.bind_ok found).trans done
    exact ⟨_, s', Effect.bind_ok ran, moved⟩
  | lapseAppointment =>
    obtain ⟨same, lane, appointmentAt, booked, _⟩ := due_lapseAppointment.mp due
    cases same
    obtain ⟨result, applied⟩ : ∃ result, applyLapseAppointment t (ports.nowInstant 0)
        (ports.newTicketEventId 0) = some result := by
      rw [applyLapseAppointment, booked]
      exact ⟨_, rfl⟩
    have minted : result.event.id = ports.newTicketEventId 0 := by
      obtain ⟨_, _, rfl⟩ := applyLapseAppointment_eq_some applied
      rfl
    obtain ⟨s', done, moved⟩ := @persist_fresh u interval s _ kept result self
      (.lapseAppointment t _ _ _ applied) (minted ▸ fresh)
    have ran : lapseAppointment (Durable.repository u interval) ports id s =
        (.ok result.ticket, s') := by
      refine (Effect.bind_ok found).trans (Eq.trans ?_ done)
      have reserved : ¬ t.lane ≠ .reservation := not_not.mpr lane
      have dated : ¬ t.appointmentAt = none := by
        rw [booked]
        exact Option.some_ne_none _
      simp only [guardActive, terminalError, Ticket.state, TicketVariant.state, if_neg reserved,
        if_neg dated, applied]
    exact ⟨_, s', Effect.bind_ok ran, moved⟩

/-- So does its dispatch: the ticket makes the transition of the tick. -/
theorem tick_commits (kept : s.Kept) (read : Durable.load u s id = .ok loaded)
    (due : tick.due rules loaded.state = true)
    (fresh : ports.newTicketEventId 0 ∉ s.ticketEvents.map EventRow.id) : ∃ result,
      Applies ((Durable.repository u Durable.snapshotInterval).reads s) ports
        (tick.useCase id channel) loaded result ∧
      Moved u Durable.snapshotInterval s
        (dispatched u instants s (ports, tick.action id channel)) loaded result := by
  rcases @tick_commit tick u instants s ports id channel kept with
    same | ⟨loaded', result, own, applies, moved⟩
  · obtain ⟨result, s', ran, moved⟩ :=
      @tick_runs u Durable.snapshotInterval s ports id channel rules tick loaded kept read due fresh
    rw [dispatched, dispatch_store useCase_action, ran] at same
    exact absurd (same ▸ ⟨rfl, rfl, rfl⟩) (moved.changes kept)
  · have again := moved.read
    rw [own, read] at again
    cases again
    exact ⟨result, applies, moved⟩

end

/-! ### Due by a time -/

/-- The rules under which a tick selects the tickets for which it has been due since `d`, in
nanoseconds. -/
def AlarmConfig.dueBy (config : AlarmConfig) (d : Int) : SweepRules where
  maxNudges := config.maxNudges
  calledCutoff := -config.overdueAfterCalled
  nudgeCutoff := -config.nudgeInterval
  appointmentCutoff := -config.appointmentGrace
  earlier t ms := t.epochNs ≤ d + ms * nsPerMs

/-- The ticket can be loaded, and the tick has been due for it since `d`. -/
def DurableStore.DueBy (u : Unicode) (config : AlarmConfig) (tick : Tick) (id : TicketId) (d : Int)
    (s : DurableStore) : Prop :=
  ∃ loaded, Durable.load u s id = .ok loaded ∧ tick.due (config.dueBy d) loaded.state = true

/-- The cutoffs lie in years of four digits. -/
structure SweepRules.Plain (rules : SweepRules) : Prop where
  called : FourDigits (rules.calledCutoff / 1000)
  nudged : FourDigits (rules.nudgeCutoff / 1000)
  appointment : FourDigits (rules.appointmentCutoff / 1000)

section
variable {config : AlarmConfig} {d nowMs : Int} {rules : SweepRules} {tick : Tick} {t : Ticket}

/-- A tick which is late by a second selects the ticket. -/
theorem due_of_dueBy (read : config.rules Instant.textBefore nowMs = some rules)
    (plain : rules.Plain) (late : d + 999 * nsPerMs < nowMs * nsPerMs)
    (due : tick.due (config.dueBy d) t = true) : tick.due rules t = true := by
  have chosen : ∀ {x : Instant} {pause : Int}, FourDigits ((nowMs - pause) / 1000) →
      (config.dueBy d).earlier x (-pause) = true → x.textBefore (nowMs - pause) = true := by
    intro x pause dated by_
    have le : x.epochNs ≤ d + -pause * nsPerMs := of_decide_eq_true by_
    refine textBefore_of_late dated ?_
    unfold nsPerMs at late le ⊢
    omega
  cases AlarmConfig.rules_eq_some read
  cases tick with
  | moveToOverdue =>
    obtain ⟨call, same, by_⟩ := due_moveToOverdue.mp due
    exact due_moveToOverdue.mpr ⟨call, same, chosen plain.called by_⟩
  | nudge =>
    obtain ⟨call, stamp, same, left_, by_⟩ := due_nudge.mp due
    exact due_nudge.mpr ⟨call, stamp, same, left_,
      fun last nudged => chosen plain.nudged (by_ last nudged)⟩
  | markNoShow =>
    obtain ⟨call, stamp, last, same, used, nudged, by_⟩ := due_markNoShow.mp due
    exact due_markNoShow.mpr ⟨call, stamp, last, same, used, nudged, chosen plain.nudged by_⟩
  | lapseAppointment =>
    obtain ⟨same, lane, appointmentAt, booked, by_⟩ := due_lapseAppointment.mp due
    exact due_lapseAppointment.mpr
      ⟨same, lane, appointmentAt, booked, chosen plain.appointment by_⟩

/-- What the action of a tick leaves is not due for the tick, nor has it been since `d`. -/
theorem not_dueBy_of_applies {reads : Reads} {ports : Ports} {id : TicketId} {channel : Channel}
    {loaded : LoadedAggregate} {result : ApplyResult} (interval : 0 ≤ config.nudgeInterval)
    (later : d < (ports.nowInstant 0).epochNs)
    (applies : Applies reads ports (tick.useCase id channel) loaded result) :
    tick.due (config.dueBy d) result.ticket = false := by
  rw [Bool.eq_false_iff]
  intro due
  cases tick with
  | moveToOverdue =>
    cases applies
    obtain ⟨_, same, _⟩ := due_moveToOverdue.mp due
    cases same
  | nudge =>
    cases applies
    obtain ⟨_, _, same, _, by_⟩ := due_nudge.mp due
    cases same
    have le : (ports.nowInstant 0).epochNs ≤ d + -config.nudgeInterval * nsPerMs :=
      of_decide_eq_true (by_ _ rfl)
    have nonneg := Int.mul_nonneg interval (by decide : (0 : Int) ≤ nsPerMs)
    rw [Int.neg_mul] at le
    omega
  | markNoShow =>
    cases applies
    obtain ⟨_, _, _, same, _⟩ := due_markNoShow.mp due
    cases same
  | lapseAppointment =>
    cases applies with
    | lapseAppointment _ _ _ _ _ _ applied =>
      obtain ⟨_, _, rfl⟩ := applyLapseAppointment_eq_some applied
      obtain ⟨same, _⟩ := due_lapseAppointment.mp due
      cases same

end

end SlotBooking
