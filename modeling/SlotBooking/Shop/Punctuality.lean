import SlotBooking.Shop.AlarmArmed
import SlotBooking.Shop.SweepProgress

/-! How long a ticket can wait for the alarm. The clock is not under the control of the program:
that the platform runs an alarm at most `slack` nanoseconds late, and that a sweep takes at most
`length`, are conditions on the events of a run. From one sweep to the next it is a minute at most. -/
namespace SlotBooking

/-- The object with the time at which its last event has ended, in nanoseconds. -/
structure TimedObject where
  object : DurableObject
  clock : Int

structure TimedEvent where
  event : ObjectEvent
  ends : Int

/-- The clock is read within the event. -/
def ObjectEvent.ReadsClock (begins ends : Int) : ObjectEvent → Prop
  | .dispatch turn _ | .proceed turn _ _ =>
    (∀ i, begins ≤ (turn.ports.nowInstant i).epochNs) ∧ turn.nowMs * nsPerMs ≤ ends
  | .alarm nowMs | .reArm nowMs => nowMs * nsPerMs ≤ ends
  | _ => True

section
variable (u : Unicode) (instants : InstantText) (scan : List TicketRow → List TicketRow)
  (config : AlarmConfig)

/-- Times are compared as texts. -/
def TimedObject.serve (s : TimedObject) (e : TimedEvent) : TimedObject :=
  ⟨s.object.serve u instants scan Instant.textBefore config e.event, e.ends⟩

/-- The clock goes on; a pending alarm is not overdue by more than `slack`, and a sweep has not
begun more than `length` before; cutoffs lie in years of four digits, and event ids are new. -/
structure Punctual (slack length : Int) (s : TimedObject) (e : TimedEvent) : Prop where
  forward : s.clock ≤ e.ends
  reads : e.event.ReadsClock s.clock e.ends
  onTime : ∀ due, s.object.sweep = none → s.object.alarmAt = some due →
    e.ends ≤ due * nsPerMs + slack
  brief : ∀ run, s.object.sweep = some run → e.ends ≤ run.startedMs * nsPerMs + length
  plain : ∀ nowMs rules, e.event = .alarm nowMs →
    config.rules Instant.textBefore nowMs = some rules → rules.Plain
  fresh : ∀ call, s.object.dispatches e.event = some call →
    call.1.newTicketEventId 0 ∉ s.object.store.ticketEvents.map EventRow.id

/-- The longest time from one sweep to the next, in nanoseconds. -/
def minute : Int := alarmFallbackReArmMs * nsPerMs

structure TimedObject.Sound (s : TimedObject) : Prop where
  kept : s.object.store.Kept
  columned : s.object.store.Columned
  running : ∀ run, s.object.sweep = some run →
    config.rules Instant.textBefore run.startedMs = some run.rules ∧ run.rules.Plain ∧
      run.startedMs * nsPerMs ≤ s.clock
  soon : ∀ due, s.object.sweep = none → s.object.alarmAt = some due →
    due * nsPerMs ≤ s.clock + minute

end

/-! ### The alarm over one event -/

section
variable {u : Unicode} {instants : InstantText} {scan : List TicketRow → List TicketRow}
  {earlier : Instant → Int → Bool} {config : AlarmConfig} {object : DurableObject}
  {event : ObjectEvent}

/-- Between two sweeps the pending alarm stays, unless there is none and a dispatch arms one; the
end of a sweep arms the next. -/
theorem serve_alarm {due : Int}
    (idle : (object.serve u instants scan earlier config event).sweep = none)
    (set : (object.serve u instants scan earlier config event).alarmAt = some due) :
    (object.sweep = none ∧ (object.alarmAt = some due ∨ object.alarmAt = none ∧
      ∃ turn action, event = .dispatch turn action ∧ due = turn.nowMs + alarmFallbackReArmMs)) ∨
    ∃ run nowMs, object.sweep = some run ∧ run.ticks = [] ∧ run.pending = [] ∧
      event = .reArm nowMs ∧ due = nowMs + config.reArmMs := by
  cases event with
  | fetch upgrade socket sent =>
    simp only [DurableObject.serve, DurableObject.fetch] at idle set
    split at idle
    · rename_i other
      rw [if_pos other] at set
      exact .inl ⟨idle, .inl set⟩
    · rename_i asked
      rw [if_neg asked] at set
      exact .inl ⟨idle, .inl set⟩
  | webSocketClose | registerPushSubscription | unregisterPushSubscription =>
    exact .inl ⟨idle, .inl set⟩
  | dispatch turn action =>
    have before := dispatch_pending.1.symm.trans idle
    refine .inl ⟨before, ?_⟩
    have ends := @DurableObject.dispatch_end u instants scan object turn action
    change (object.dispatch u instants scan turn action).2.alarmAt = some due at set
    generalize object.dispatch u instants scan turn action = r at ends set
    cases ends with
    | failed | unseen => exact .inl set
    | done result sent succeeds broadcast =>
      have alarm := congrArg DurableObject.alarmAt (broadcastProjection_eq_some broadcast).1
      change sent.alarmAt = object.alarmAt at alarm
      change some (sent.alarmAt.getD (turn.nowMs + alarmFallbackReArmMs)) = some due at set
      rw [alarm] at set
      cases pending : object.alarmAt with
      | some due' =>
        rw [pending] at set
        exact .inl set
      | none =>
        rw [pending] at set
        exact .inr ⟨rfl, turn, action, rfl, (Option.some.inj set).symm⟩
  | alarm nowMs =>
    simp only [DurableObject.serve] at idle set
    split at idle
    · rename_i due' before pending
      split at idle
      · rename_i reached
        simp only [before, pending, if_pos reached] at set
        cases set
      · rename_i early
        simp only [before, pending, if_neg early] at set
        exact .inl ⟨before, .inl (pending.trans set)⟩
    · rename_i other
      split at set
      · rename_i due' before pending
        exact (other due' before pending).elim
      · exact .inl ⟨idle, .inl set⟩
  | proceed turn pushEnabled sent =>
    simp only [DurableObject.serve] at idle set
    cases running : object.sweep with
    | none =>
      simp only [running] at set
      exact .inl ⟨rfl, .inl set⟩
    | some run =>
      have proceeds := @DurableObject.proceeds u instants scan object turn pushEnabled sent run
      simp only [running] at idle
      generalize object.proceed u instants scan turn pushEnabled sent run = next at proceeds idle
      cases proceeds with
      | ended => cases running.symm.trans idle
      | selects | announces | sends => cases idle
      | acts => cases dispatch_pending.1.symm.trans idle
  | reArm nowMs =>
    simp only [DurableObject.serve] at idle set
    split at set
    · rename_i startedMs rules fanOut running
      exact .inr ⟨_, nowMs, running, rfl, rfl, rfl, (Option.some.inj set).symm⟩
    · rename_i other
      split at idle
      · rename_i startedMs rules fanOut running
        exact (other startedMs rules fanOut running).elim
      · exact .inl ⟨idle, .inl set⟩

theorem reArmMs_le : config.reArmMs ≤ alarmFallbackReArmMs :=
  (min_le_right _ _).trans ((min_le_right _ _).trans (min_le_right _ _))

end

/-! ### The invariant of every run -/

section
variable {u : Unicode} {instants : InstantText} {scan : List TicketRow → List TicketRow}
  {config : AlarmConfig} {slack length : Int} {s : TimedObject} {e : TimedEvent}

theorem TimedObject.sound_empty (clock : Int) : TimedObject.Sound config ⟨.empty, clock⟩ where
  kept := DurableStore.kept_empty
  columned := columned_empty
  running := by simp [DurableObject.empty]
  soon := by simp [DurableObject.empty]

theorem TimedObject.Sound.serve (sound : s.Sound config)
    (punctual : Punctual config slack length s e) :
    (s.serve u instants scan config e).Sound config where
  kept := s.object.serve_kept sound.kept _ config e.event
  columned := by
    change (s.object.serve u instants scan Instant.textBefore config e.event).store.Columned
    rw [DurableObject.serve_store]
    cases s.object.dispatches e.event with
    | none => exact sound.columned
    | some call => exact columned_steps (dispatch_steps sound.kept) sound.kept sound.columned
  running := by
    intro run after
    rcases serve_sweep after with
      before | ⟨before, turn, _, _, event, was, goes⟩ | ⟨nowMs, due, rules, event, _, _, read, rfl⟩
    · obtain ⟨read, plain, past⟩ := sound.running run before
      exact ⟨read, plain, past.trans punctual.forward⟩
    · obtain ⟨read, plain, past⟩ := sound.running before was
      obtain ⟨started, rules⟩ := goes.started
      rw [started, rules]
      exact ⟨read, plain, past.trans punctual.forward⟩
    · have reads := punctual.reads
      rw [event] at reads
      exact ⟨read, punctual.plain nowMs rules event read, reads⟩
  soon := by
    intro due idle set
    have forward := punctual.forward
    change due * nsPerMs ≤ e.ends + minute
    rcases serve_alarm idle set with
      ⟨before, was | ⟨_, turn, action, event, rfl⟩⟩ | ⟨run, nowMs, _, _, _, event, rfl⟩
    · have soon := sound.soon due before was
      omega
    · have reads := punctual.reads
      rw [event] at reads
      rw [minute, Int.add_mul]
      exact Int.add_le_add_right reads.2 _
    · have reads : nowMs * nsPerMs ≤ e.ends := by
        have reads := punctual.reads
        rwa [event] at reads
      have pause := Int.mul_le_mul_of_nonneg_right (@reArmMs_le config)
        (by decide : (0 : Int) ≤ nsPerMs)
      rw [minute, Int.add_mul]
      omega

/-! ### One ticket which stays due -/

/-- How the ticket stands with the sweeps, where its tick has been late since `since`: the next
sweep is soon to begin, and in a sweep which began later than that the tick is still to come, or the
ticket is among those which are yet to be acted on. -/
structure TimedObject.Awaits (slack length : Int) (tick : Tick) (id : TicketId) (since : Int)
    (s : TimedObject) : Prop where
  clock : s.clock ≤ since + minute + slack + 2 * length
  idle : ∀ due, s.object.sweep = none → s.object.alarmAt = some due →
    due * nsPerMs ≤ since + length + minute
  running : ∀ run, s.object.sweep = some run → run.startedMs * nsPerMs ≤ since ∨
    since < run.startedMs * nsPerMs ∧
      run.startedMs * nsPerMs ≤ since + length + minute + slack ∧
      (tick ∈ run.ticks ∨ (tick, id) ∈ run.pending)

theorem DurableStore.DueBy.present {tick : Tick} {id : TicketId} {d : Int} {s : DurableStore}
    (due : s.DueBy u config tick id d) (kept : s.Kept) : ∃ t revision,
      (s.aggregate id).latest = some (t, revision) ∧ tick.due (config.dueBy d) t = true := by
  obtain ⟨loaded, read, chosen⟩ := due
  obtain ⟨row, found, outline, _⟩ := kept.row_of_load read
  refine ⟨row.payload.json, row.revision, ?_, ?_⟩
  · rw [DurableStore.aggregate, found]
    rfl
  · rwa [due_of_outline outline]

theorem TimedObject.Armed.alarm {tick : Tick} {id : TicketId} {d : Int} (sound : s.Sound config)
    (armed : s.object.Armed) (due : s.object.store.DueBy u config tick id d)
    (idle : s.object.sweep = none) : ∃ due, s.object.alarmAt = some due := by
  obtain ⟨t, revision, present, _⟩ := due.present sound.kept
  obtain ⟨row, found, _⟩ := row_of_latest present
  have some_ : s.object.store.tickets ≠ [] :=
    List.ne_nil_of_mem (Table.find_some found).1
  exact Option.ne_none_iff_exists'.mp ((armed some_).resolve_right (fun h => h idle))

/-- The action for a ticket which is due leaves it no longer due. -/
theorem dispatched_not_due {tick : Tick} {id : TicketId} {channel : Channel} {d : Int}
    {store : DurableStore} {ports : Ports} (kept : store.Kept)
    (interval : 0 ≤ config.nudgeInterval) (later : d < (ports.nowInstant 0).epochNs)
    (fresh : ports.newTicketEventId 0 ∉ store.ticketEvents.map EventRow.id)
    (due : store.DueBy u config tick id d) :
    ¬ (dispatched u instants store (ports, tick.action id channel)).DueBy u config tick id d := by
  obtain ⟨loaded, read, chosen⟩ := due
  obtain ⟨result, applies, moved⟩ :=
    @tick_commits u instants store ports id channel _ tick loaded kept read chosen fresh
  have own : loaded.state.id = id := load_id kept.tidy (kept.outlined id) read
  intro still
  obtain ⟨t, revision, present, again⟩ := still.present (moved.kept kept)
  obtain ⟨_, latest⟩ := (@Moved.advanced _ _ _ _ _ loaded.state _ _ moved kept own).latest
  cases latest.symm.trans present
  rw [Option.elim_some, not_dueBy_of_applies interval later applies] at again
  cases again

theorem TimedObject.Awaits.serve {tick : Tick} {id : TicketId} {d since : Int}
    (interval : 0 ≤ config.nudgeInterval) (slackNonneg : 0 ≤ slack) (lengthNonneg : 0 ≤ length)
    (late : d + 999 * nsPerMs ≤ since) (sound : s.Sound config) (armed : s.object.Armed)
    (punctual : Punctual config slack length s e)
    (due : s.object.store.DueBy u config tick id d)
    (still : (s.serve u instants scan config e).object.store.DueBy u config tick id d)
    (awaits : s.Awaits slack length tick id since) :
    (s.serve u instants scan config e).Awaits slack length tick id since := by
  have minuteNonneg : 0 ≤ minute := by decide
  have later : d < since := by
    unfold nsPerMs at late
    omega
  have onTime : ∀ due, s.object.sweep = none → s.object.alarmAt = some due →
      e.ends ≤ since + length + minute + slack := by
    intro due idle set
    have reached := punctual.onTime due idle set
    have soon := awaits.idle due idle set
    omega
  constructor
  · change e.ends ≤ _
    cases running : s.object.sweep with
    | none =>
      obtain ⟨due, set⟩ := TimedObject.Armed.alarm sound armed due running
      have reached := onTime due running set
      omega
    | some run =>
      have brief := punctual.brief run running
      rcases awaits.running run running with early | ⟨_, soon, _⟩ <;> omega
  · intro due' idle set
    rcases serve_alarm idle set with
      ⟨before, was | ⟨unarmed, _⟩⟩ | ⟨run, nowMs, running, ticks, pending, event, rfl⟩
    · exact awaits.idle due' before was
    · obtain ⟨_, set'⟩ := TimedObject.Armed.alarm sound armed due before
      cases unarmed.symm.trans set'
    · have reads : nowMs * nsPerMs ≤ e.ends := by
        have reads := punctual.reads
        rwa [event] at reads
      have brief := punctual.brief run running
      have pause := Int.mul_le_mul_of_nonneg_right (@reArmMs_le config)
        (by decide : (0 : Int) ≤ nsPerMs)
      rcases awaits.running run running with early | ⟨_, _, there⟩
      · rw [Int.add_mul]
        unfold minute
        omega
      · rw [ticks, pending] at there
        rcases there with there | there <;> cases there
  · intro run after
    rcases serve_sweep after with before |
      ⟨before, turn, pushEnabled, sent, event, running, goes⟩ |
      ⟨nowMs, due', rules, event, idle, set, read, rfl⟩
    · exact awaits.running run before
    · rw [goes.started.1]
      refine (awaits.running before running).imp_right ?_
      rintro ⟨began, soon, there⟩
      refine ⟨began, soon, ?_⟩
      obtain ⟨read, plain, past⟩ := sound.running before running
      cases goes with
      | ended | announces | sends => exact there
      | selects first ticks head pending =>
        rw [head, pending] at there
        rcases there with coming | mem
        · rcases List.mem_cons.mp coming with rfl | rest
          · right
            obtain ⟨t, revision, present, chosen⟩ := due.present sound.kept
            have reached : d + 999 * nsPerMs < before.startedMs * nsPerMs := by omega
            have selected := (mem_selected_iff sound.kept sound.columned present).mpr
              (due_of_dueBy read plain reached chosen)
            exact List.mem_map_of_mem selected
          · exact .inl rest
        · cases mem
      | acts p pending head channel dispatches =>
        rw [head] at there
        refine there.imp_right (fun mem => ?_)
        rcases List.mem_cons.mp mem with rfl | rest
        · -- its turn has come, and it would no longer be due
          exfalso
          have reads := punctual.reads
          rw [event] at reads
          have readNow : d < (turn.ports.nowInstant 0).epochNs := by
            have reading := reads.1 0
            omega
          have fresh := punctual.fresh _ dispatches
          change (s.object.serve u instants scan Instant.textBefore config e.event).store.DueBy
            u config tick id d at still
          rw [DurableObject.serve_store, dispatches] at still
          exact dispatched_not_due sound.kept interval readNow fresh due still
        · exact rest
    · have reads : nowMs * nsPerMs ≤ e.ends := by
        have reads := punctual.reads
        rwa [event] at reads
      have reached := onTime due' idle set
      by_cases early : nowMs * nsPerMs ≤ since
      · exact .inl early
      · refine .inr ⟨Int.not_le.mp early, reads.trans reached, .inl ?_⟩
        cases tick <;> simp

theorem TimedObject.Awaits.start {tick : Tick} {id : TicketId} (d : Int) (slackNonneg : 0 ≤ slack)
    (lengthNonneg : 0 ≤ length) (sound : s.Sound config) :
    s.Awaits slack length tick id (max s.clock (d + 999 * nsPerMs)) := by
  have past : s.clock ≤ max s.clock (d + 999 * nsPerMs) := le_max_left _ _
  have minuteNonneg : 0 ≤ minute := by decide
  refine ⟨by omega, fun due idle set => ?_, fun run running => .inl ?_⟩
  · have soon := sound.soon due idle set
    omega
  · exact (sound.running run running).2.2.trans past

theorem TimedObject.Awaits.run {tick : Tick} {id : TicketId} {d since : Int}
    {events : List TimedEvent} (interval : 0 ≤ config.nudgeInterval) (slackNonneg : 0 ≤ slack)
    (lengthNonneg : 0 ≤ length) (late : d + 999 * nsPerMs ≤ since) (sound : s.Sound config)
    (punctual : Trace.Throughout (TimedObject.serve u instants scan config)
      (Punctual config slack length) events s)
    (armed : Trace.Always (TimedObject.serve u instants scan config) (fun s => s.object.Armed)
      events s)
    (due : Trace.Always (TimedObject.serve u instants scan config)
      (fun s => s.object.store.DueBy u config tick id d) events s)
    (awaits : s.Awaits slack length tick id since) :
    (events.foldl (TimedObject.serve u instants scan config) s).Awaits slack length tick id
      since := by
  induction events generalizing s with
  | nil => exact awaits
  | cons e events ih =>
    obtain ⟨here, later⟩ := punctual
    obtain ⟨armedHere, armedLater⟩ := Trace.always_cons.mp armed
    obtain ⟨dueHere, dueLater⟩ := Trace.always_cons.mp due
    have next : (s.serve u instants scan config e).object.store.DueBy u config tick id d := dueLater 0
    exact ih (sound.serve here) later armedLater dueLater
      (awaits.serve interval slackNonneg lengthNonneg late sound armedHere here dueHere next)

end

/-- In a run which meets the promises of the platform, with the alarm armed in each of its states, a
ticket which loads and for which a tick has been due since `d` stays so for a minute at most: counted
from the state in which this begins, or from a second after `d`, and besides the slack of the alarm
and twice the length of a sweep. -/
theorem wait_bounded (u : Unicode) (instants : InstantText)
    (scan : List TicketRow → List TicketRow) (config : AlarmConfig)
    (interval : 0 ≤ config.nudgeInterval) (slack length : Int) (slackNonneg : 0 ≤ slack)
    (lengthNonneg : 0 ≤ length) (clock : Int) (earlier later : List TimedEvent)
    (punctual : Trace.Throughout (TimedObject.serve u instants scan config)
      (Punctual config slack length) (earlier ++ later) ⟨.empty, clock⟩)
    (armed : Trace.Always (TimedObject.serve u instants scan config) (fun s => s.object.Armed)
      (earlier ++ later) ⟨.empty, clock⟩)
    (tick : Tick) (id : TicketId) (d : Int)
    (due : Trace.Always (TimedObject.serve u instants scan config)
      (fun s => s.object.store.DueBy u config tick id d) later
      (earlier.foldl (TimedObject.serve u instants scan config) ⟨.empty, clock⟩)) :
    ((earlier ++ later).foldl (TimedObject.serve u instants scan config) ⟨.empty, clock⟩).clock ≤
      max (earlier.foldl (TimedObject.serve u instants scan config) ⟨.empty, clock⟩).clock
        (d + 999 * nsPerMs) + minute + slack + 2 * length := by
  obtain ⟨first, second⟩ := Trace.throughout_append.mp punctual
  have sound := (first.always (fun _ _ sound here => sound.serve here)
    (TimedObject.sound_empty clock)).after
  rw [List.foldl_append]
  exact (TimedObject.Awaits.run interval slackNonneg lengthNonneg (le_max_right _ _) sound second
    armed.drop due (.start d slackNonneg lengthNonneg sound)).clock

namespace Sample

def promptly (k : Nat) : DispatchTurn := ⟨laterPorts k, 2, fun _ => true⟩

/-- A ticket is issued and called at the second millisecond. -/
def calledPromptly : List TimedEvent :=
  [⟨.dispatch (promptly 1) (.issueTicket handle none none none), 2 * nsPerMs⟩,
    ⟨.dispatch (promptly 2) (.callSpecific ⟨1⟩ .staff), 2 * nsPerMs⟩]

def quietSecond : List TimedEvent := [⟨.webSocketClose 0, 1000 * nsPerMs⟩]

def serve : TimedObject → TimedEvent → TimedObject :=
  TimedObject.serve unicode noInstants id config

/-- The alarm which the first ticket has armed is a minute away. -/
theorem promptly_armed (n : Nat) (some_ : n ≠ 0) :
    (((calledPromptly ++ quietSecond).take n).foldl serve ⟨.empty, 0⟩).object.alarmAt =
        some 60002 ∧
      (((calledPromptly ++ quietSecond).take n).foldl serve ⟨.empty, 0⟩).object.sweep = none := by
  match n, some_ with
  | 1, _ => decide +kernel
  | 2, _ => decide +kernel
  | n + 3, _ =>
    have all : (calledPromptly ++ quietSecond).take (n + 3) = calledPromptly ++ quietSecond :=
      List.take_of_length_le (Nat.le_add_left 3 n)
    rw [all]
    decide +kernel

end Sample

theorem wait_bounded_sample :
    ((Sample.calledPromptly ++ Sample.quietSecond).foldl Sample.serve ⟨.empty, 0⟩).clock ≤
      max (Sample.calledPromptly.foldl Sample.serve ⟨.empty, 0⟩).clock
        (3 * nsPerMs + 999 * nsPerMs) + minute + 0 + 2 * 0 := by
  have loads : ∀ s : DurableStore, (Durable.load Sample.unicode s ⟨1⟩).toOption.any (fun loaded =>
      Tick.moveToOverdue.due (Sample.config.dueBy (3 * nsPerMs)) loaded.state) = true →
      s.DueBy Sample.unicode Sample.config .moveToOverdue ⟨1⟩ (3 * nsPerMs) := by
    intro s chosen
    cases read : Durable.load Sample.unicode s ⟨1⟩ with
    | error e => simp [read, Except.toOption] at chosen
    | ok loaded => exact ⟨loaded, read, by simpa [read, Except.toOption] using chosen⟩
  refine wait_bounded Sample.unicode Sample.noInstants id Sample.config (by decide) 0 0 le_rfl le_rfl 0
    Sample.calledPromptly Sample.quietSecond ⟨?_, ?_, ?_, trivial⟩ ?_ .moveToOverdue ⟨1⟩
    (3 * nsPerMs) ?_
  · have read : (0 : Int) ≤ 2 * nsPerMs := by decide
    exact ⟨by decide, ⟨fun _ => read, by decide⟩, by simp [DurableObject.empty],
      by simp [DurableObject.empty], by simp, by rintro call ⟨⟩; decide⟩
  · obtain ⟨alarm, idle⟩ := Sample.promptly_armed 1 (by decide)
    have read : 2 * nsPerMs ≤ 2 * nsPerMs := le_rfl
    refine ⟨by decide, ⟨fun _ => read, by decide⟩, fun due _ set => ?_, fun run running => ?_,
      by simp, by rintro call ⟨⟩; decide +kernel⟩
    · cases alarm.symm.trans set
      decide
    · cases idle.symm.trans running
  · obtain ⟨alarm, idle⟩ := Sample.promptly_armed 2 (by decide)
    refine ⟨by decide, trivial, fun due _ set => ?_, fun run running => ?_, by simp,
      by rintro call ⟨⟩⟩
    · cases alarm.symm.trans set
      decide
    · cases idle.symm.trans running
  · intro n
    cases n with
    | zero => exact fun some_ => absurd rfl some_
    | succ n =>
      refine .of_pending (.inl ?_)
      have alarm := (Sample.promptly_armed (n + 1) (Nat.succ_ne_zero n)).1
      change (((Sample.calledPromptly ++ Sample.quietSecond).take (n + 1)).foldl Sample.serve
        ⟨.empty, 0⟩).object.alarmAt ≠ none
      rw [alarm]
      exact Option.some_ne_none _
  · refine Trace.always_cons.mpr ⟨?_, Trace.always_nil.mpr ?_⟩
    · exact loads _ (by decide +kernel)
    · exact loads _ (by decide +kernel)

end SlotBooking
