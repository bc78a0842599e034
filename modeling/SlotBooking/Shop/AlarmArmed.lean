import SlotBooking.Shop.Feed

/-! The alarm keeps itself going: a sweep arms the next one, and the first success of a dispatch
arms the first. It is lost where an alarm cannot compute its cutoffs, and not armed where the
broadcast of the first ticket throws. -/
namespace SlotBooking

/-- Where there are tickets, an alarm is pending or a sweep under way. -/
def DurableObject.Armed (object : DurableObject) : Prop :=
  object.store.tickets ≠ [] → object.alarmAt ≠ none ∨ object.sweep ≠ none

section
variable (u : Unicode) (instants : InstantText) (scan : List TicketRow → List TicketRow)
  (earlier : Instant → Int → Bool) (config : AlarmConfig)

/-- The condition on one event: an alarm which runs while there are tickets can compute its
cutoffs, and a ticket which comes with no alarm pending can be shown to those who are connected. -/
structure DurableObject.Rouses (object : DurableObject) (event : ObjectEvent) : Prop where
  cutoffs : ∀ nowMs due, event = .alarm nowMs → object.sweep = none →
    object.alarmAt = some due → due ≤ nowMs → object.store.tickets ≠ [] →
      config.rules earlier nowMs ≠ none
  shown : ∀ call, object.dispatches event = some call → object.alarmAt = none →
    object.sweep = none → (dispatched u instants object.store call).tickets ≠ [] →
      (object.withStore (dispatched u instants object.store call)).Shown u scan

end

section
variable {u : Unicode} {instants : InstantText} {scan : List TicketRow → List TicketRow}
  {object : DurableObject} {turn : DispatchTurn} {action : QueueAction}

/-- Out of empty tables only a success brings a ticket. -/
theorem succeeds_of_first {s : DurableStore} {ports : Ports} (kept : s.Kept) (empty : s.tickets = [])
    (arrived : (dispatched u instants s (ports, action)).tickets ≠ []) :
    s.Succeeds u instants ports action := by
  by_contra fails
  have calls := dispatch_fails kept fails
  rcases calls.cases_head with same | ⟨_, ⟨_, _, _, moved⟩, _⟩
  · rw [← same] at arrived
    exact arrived empty
  · obtain ⟨front, row, back, before, _⟩ := moved.rows kept
    rw [empty] at before
    simp at before

/-- With no alarm pending, a success arms one unless its broadcast throws. -/
theorem dispatch_arms (unarmed : object.alarmAt = none)
    (succeeds : object.store.Succeeds u instants turn.ports action) :
    (object.dispatch u instants scan turn action).2.alarmAt ≠ none ↔
      (object.withStore
        (dispatched u instants object.store (turn.ports, action))).Shown u scan := by
  have ends := @DurableObject.dispatch_end u instants scan object turn action
  generalize object.dispatch u instants scan turn action = r at ends ⊢
  cases ends with
  | failed _ fails => exact absurd succeeds fails
  | unseen _ unshown => exact iff_of_false (not_not.mpr unarmed) unshown
  | done result sent _ broadcast =>
    refine iff_of_true (Option.some_ne_none _) ?_
    by_contra unshown
    cases broadcast.symm.trans (broadcastProjection_eq_none_iff.mpr unshown)

theorem DurableObject.Armed.of_pending (pending : object.alarmAt ≠ none ∨ object.sweep ≠ none) :
    object.Armed := fun _ => pending

theorem dispatches_armed_iff (earlier : Instant → Int → Bool) (config : AlarmConfig)
    (kept : object.store.Kept) (armed : object.Armed) {event : ObjectEvent}
    {call : Ports × QueueAction} (dispatches : object.dispatches event = some call) :
    (object.serve u instants scan earlier config event).Armed ↔
      (object.alarmAt = none → object.sweep = none →
        (dispatched u instants object.store call).tickets ≠ [] →
          (object.withStore (dispatched u instants object.store call)).Shown u scan) := by
  obtain ⟨prepared, turn, store, sockets, alarm, sweep, ports, same⟩ :=
    @DurableObject.serve_dispatch u instants scan object earlier config event call dispatches
  obtain ⟨sweepAfter, stays⟩ := @dispatch_pending u instants scan prepared turn call.2
  have storeAfter := @DurableObject.dispatch_store u instants scan prepared turn call.2
  rw [store, ports] at storeAfter
  rw [same]
  by_cases pending : object.alarmAt = none ∧ object.sweep = none
  · obtain ⟨unarmed, idle⟩ := pending
    have empty : object.store.tickets = [] := by
      by_contra some_
      exact (armed some_).elim (fun h => h unarmed) (fun h => h idle)
    have idleAfter : (prepared.dispatch u instants scan turn call.2).2.sweep = none :=
      sweepAfter.trans (sweep.mpr idle)
    have shown : (prepared.withStore
        (dispatched u instants object.store call)).Shown u scan ↔
        (object.withStore (dispatched u instants object.store call)).Shown u scan := by
      unfold DurableObject.Shown
      change (prepared.webSockets = [] ∨ _) ↔ (object.webSockets = [] ∨ _)
      rw [sockets]
      rfl
    have arms : (dispatched u instants object.store call).tickets ≠ [] →
        ((prepared.dispatch u instants scan turn call.2).2.alarmAt ≠ none ↔
          (object.withStore (dispatched u instants object.store call)).Shown u scan) := by
      intro arrived
      have succeeds : prepared.store.Succeeds u instants turn.ports call.2 := by
        rw [store, ports]
        exact succeeds_of_first kept empty arrived
      have one := @dispatch_arms u instants scan prepared turn call.2 (alarm.trans unarmed) succeeds
      rw [store, ports] at one
      exact one.trans shown
    unfold DurableObject.Armed
    rw [storeAfter, idleAfter]
    constructor
    · intro after _ _ arrived
      exact (arms arrived).mp ((after arrived).resolve_right (fun h => h rfl))
    · intro condition arrived
      exact .inl ((arms arrived).mpr (condition unarmed idle arrived))
  · refine iff_of_true (.of_pending ?_) (fun unarmed idle => absurd ⟨unarmed, idle⟩ pending)
    by_cases unarmed : object.alarmAt = none
    · right
      rw [sweepAfter]
      exact fun none_ => pending ⟨unarmed, sweep.mp none_⟩
    · left
      obtain ⟨due, set⟩ := Option.ne_none_iff_exists'.mp unarmed
      rw [stays due (alarm.trans set)]
      exact Option.some_ne_none due

theorem alarm_armed_iff_cutoffs (earlier : Instant → Int → Bool) (config : AlarmConfig)
    (armed : object.Armed) (nowMs : Int) :
    (object.serve u instants scan earlier config (.alarm nowMs)).Armed ↔
      ∀ due, object.sweep = none → object.alarmAt = some due → due ≤ nowMs →
        object.store.tickets ≠ [] → config.rules earlier nowMs ≠ none := by
  simp only [DurableObject.serve]
  split
  · rename_i due idle set
    split
    · rename_i reached
      unfold DurableObject.Armed
      simp only [ne_eq, Option.map_eq_none_iff, not_true_eq_false, false_or]
      constructor
      · intro after due' _ _ _ some_
        exact after some_
      · intro condition some_
        exact condition due idle set reached some_
    · rename_i early
      refine iff_of_true armed (fun due' _ set' reached => ?_)
      cases set.symm.trans set'
      exact absurd reached early
  · rename_i other
    exact iff_of_true armed (fun due idle set => (other due idle set).elim)

theorem serve_armed_iff (earlier : Instant → Int → Bool) (config : AlarmConfig)
    (kept : object.store.Kept) (armed : object.Armed) (event : ObjectEvent) :
    (object.serve u instants scan earlier config event).Armed ↔
      object.Rouses u instants scan earlier config event := by
  cases dispatches : object.dispatches event with
  | some call =>
    rw [dispatches_armed_iff earlier config kept armed dispatches]
    constructor
    · refine fun condition => ⟨fun nowMs due same => ?_, fun call' other => ?_⟩
      · subst same
        cases dispatches
      · cases dispatches.symm.trans other
        exact condition
    · exact fun rouses => rouses.shown call dispatches
  | none =>
    have still : ∀ call, object.dispatches event = some call → object.alarmAt = none →
        object.sweep = none → (dispatched u instants object.store call).tickets ≠ [] →
          (object.withStore (dispatched u instants object.store call)).Shown u scan := by
      intro call other
      cases dispatches.symm.trans other
    by_cases alarms : ∃ nowMs, event = .alarm nowMs
    · obtain ⟨nowMs, rfl⟩ := alarms
      rw [alarm_armed_iff_cutoffs earlier config armed nowMs]
      constructor
      · refine fun condition => ⟨fun nowMs' due same => ?_, still⟩
        cases same
        exact condition due
      · exact fun rouses due => rouses.cutoffs nowMs due rfl
    · refine iff_of_true ?_ ⟨fun nowMs due same => absurd ⟨nowMs, same⟩ alarms, still⟩
      have store : (object.serve u instants scan earlier config event).store = object.store := by
        rw [DurableObject.serve_store, dispatches]
        rfl
      intro some_
      rw [store] at some_
      have before := armed some_
      cases event with
      | fetch upgrade socket sent =>
        simp only [DurableObject.serve, DurableObject.fetch]
        split <;> exact before
      | webSocketClose | registerPushSubscription | unregisterPushSubscription => exact before
      | dispatch => cases dispatches
      | alarm nowMs => exact absurd ⟨nowMs, rfl⟩ alarms
      | proceed turn pushEnabled sent =>
        simp only [DurableObject.serve]
        cases running : object.sweep with
        | none =>
          rw [← running]
          simpa only [running] using before
        | some run =>
          have proceeds := @DurableObject.proceeds u instants scan object turn pushEnabled sent run
          simp only
          generalize object.proceed u instants scan turn pushEnabled sent run = next at proceeds ⊢
          cases proceeds with
          | ended => exact before
          | selects | announces | sends => exact .inr (Option.some_ne_none _)
          | acts p pending first channel ready =>
            simp [DurableObject.dispatches, running, first, ready] at dispatches
      | reArm nowMs =>
        simp only [DurableObject.serve]
        split
        · exact .inl (Option.some_ne_none _)
        · exact before

end

/-- In every state of a run in which there are tickets an alarm is pending or a sweep under way,
if and only if no alarm fails at its cutoffs while there are tickets and no ticket comes, with no
alarm pending, which those who are connected cannot be shown. -/
theorem alarm_armed_iff (u : Unicode) (instants : InstantText)
    (scan : List TicketRow → List TicketRow) (earlier : Instant → Int → Bool)
    (config : AlarmConfig) (events : List ObjectEvent) :
    Trace.Always (DurableObject.serve u instants scan earlier config) DurableObject.Armed events
        .empty ↔
      Trace.Throughout (DurableObject.serve u instants scan earlier config)
        (DurableObject.Rouses u instants scan earlier config) events .empty := by
  refine Trace.always_iff_throughout (K := fun object => object.store.Kept)
    (fun object event kept => object.serve_kept kept earlier config event)
    (fun object event kept armed => serve_armed_iff earlier config kept armed event)
    DurableStore.kept_empty ?_
  exact fun some_ => absurd rfl some_

end SlotBooking
