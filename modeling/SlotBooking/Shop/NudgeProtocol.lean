import Mathlib.Data.List.Chain
import SlotBooking.Shop.SweepRaces

/-! Nudges and the no-show which follows them. The stored ticket has a counter and the time of
its last nudge; the log has every nudge. Both tell the same since the ticket last became
Overdue, so what a sweep reads off the counter is true of the log. -/
namespace SlotBooking

/-! ### The log of a ticket -/

def nudgesStep (nudges : List TicketEvent) (e : TicketEvent) : List TicketEvent :=
  match e.body with
  | .movedToOverdue _ => []
  | .nudged _ _ _ => nudges ++ [e]
  | _ => nudges

def nudgesSinceOverdue (log : List TicketEvent) : List TicketEvent := log.foldl nudgesStep []

def TicketEvent.isNudge (e : TicketEvent) : Bool :=
  match e.body with
  | .nudged _ _ _ => true
  | _ => false

/-- More than the nudge interval apart. -/
def AlarmConfig.Spaced (config : AlarmConfig) (earlier later : TicketEvent) : Prop :=
  earlier.occurredAt.epochNs + config.nudgeInterval * nsPerMs < later.occurredAt.epochNs

/-- What a no-show by the system has to be preceded by. -/
structure NoShowEarned (config : AlarmConfig) (history : List TicketEvent) (e : TicketEvent) :
    Prop where
  overdue : ∃ t, evolveAll none history = some t ∧ t.state = .overdue
  count : ((nudgesSinceOverdue history).length : Int) = config.maxNudges
  spaced : (nudgesSinceOverdue history ++ [e]).IsChain config.Spaced

/-- Every no-show by the system in a log is earned by what the log has before it. -/
def NoShowsEarned (config : AlarmConfig) (log : List TicketEvent) : Prop :=
  ∀ history e later, log = history ++ e :: later → e.body = .noShowed .system →
    NoShowEarned config history e

/-- The counters of an Overdue ticket, and its nudges. -/
structure Tallied (config : AlarmConfig) (stamp : OverdueStamp) (nudges : List TicketEvent) :
    Prop where
  counted : stamp.nudgeCount = nudges.length
  bounded : (stamp.nudgeCount : Int) ≤ config.maxNudges
  last : stamp.lastNudgedAt = nudges.getLast?.map TicketEvent.occurredAt
  spaced : nudges.IsChain config.Spaced

/-- What the stored ticket and its log tell of the nudges. -/
structure NudgeHistory (config : AlarmConfig)
    (a : EventSourcing.Aggregate Ticket TicketEvent) : Prop where
  tallied : ∀ t revision call stamp, a.latest = some (t, revision) →
    t.variant = .overdue call stamp → Tallied config stamp (nudgesSinceOverdue a.log)
  earned : NoShowsEarned config a.log

section
variable {config : AlarmConfig} {nowMs : Int} {log : List TicketEvent} {e : TicketEvent}

@[simp] theorem nudgesSinceOverdue_concat :
    nudgesSinceOverdue (log ++ [e]) = nudgesStep (nudgesSinceOverdue log) e :=
  List.foldl_append

theorem nudgesStep_other {nudges : List TicketEvent} (other : e.body.ofAlarm = false) :
    nudgesStep nudges e = nudges := by
  unfold nudgesStep
  cases body : e.body with
  | movedToOverdue | nudged =>
    rw [body] at other
    cases other
  | _ => rfl

theorem NoShowsEarned.concat (earned : NoShowsEarned config log)
    (last : e.body = .noShowed .system → NoShowEarned config log e) :
    NoShowsEarned config (log ++ [e]) := by
  intro history e' later same marked
  rcases List.eq_nil_or_concat later with rfl | ⟨later, last', rfl⟩
  · obtain ⟨rfl, single⟩ := List.append_inj' same rfl
    cases single
    exact last marked
  · rw [List.concat_eq_append, ← List.cons_append, ← List.append_assoc] at same
    exact earned history e' later (List.append_inj' same rfl).1 marked

/-- A sweep which finds the last nudge before its cutoff adds its event more than the interval
later. -/
theorem Tallied.concat {stamp : OverdueStamp} {nudges : List TicketEvent}
    (tallied : Tallied config stamp nudges) (late : nowMs * nsPerMs ≤ e.occurredAt.epochNs)
    (early : ∀ last, stamp.lastNudgedAt = some last →
      last.before (nowMs - config.nudgeInterval) = true) :
    (nudges ++ [e]).IsChain config.Spaced := by
  refine tallied.spaced.append (List.isChain_singleton e) ?_
  intro last isLast other isHead
  cases isHead
  have nudged : stamp.lastNudgedAt = some last.occurredAt := by
    rw [tallied.last, isLast, Option.map_some]
  have before := of_decide_eq_true (early _ nudged)
  unfold AlarmConfig.Spaced
  rw [Int.sub_mul] at before
  omega

theorem Tallied.nudged {stamp : OverdueStamp} {nudges : List TicketEvent}
    (tallied : Tallied config stamp nudges) (e : TicketEvent)
    (below : (stamp.nudgeCount : Int) < config.maxNudges)
    (late : nowMs * nsPerMs ≤ e.occurredAt.epochNs)
    (early : ∀ last, stamp.lastNudgedAt = some last →
      last.before (nowMs - config.nudgeInterval) = true) :
    Tallied config ⟨stamp.overdueAt, some e.occurredAt, stamp.nudgeCount + 1⟩ (nudges ++ [e]) where
  counted := by rw [tallied.counted, List.length_append, List.length_singleton]
  bounded := by
    rw [Int.natCast_add]
    exact below
  last := by rw [List.getLast?_concat, Option.map_some]
  spaced := tallied.concat late early

/-- One more event, and the ticket it leaves. -/
theorem NudgeHistory.append {a b : EventSourcing.Aggregate Ticket TicketEvent} {t : Ticket}
    {revision : Nat} (history : NudgeHistory config a) (log : b.log = a.log ++ [e])
    (latest : b.latest = some (t, revision))
    (tallied : ∀ call stamp, t.variant = .overdue call stamp →
      Tallied config stamp (nudgesStep (nudgesSinceOverdue a.log) e))
    (earned : e.body = .noShowed .system → NoShowEarned config a.log e) :
    NudgeHistory config b where
  tallied := by
    intro t' revision' call stamp present overdue
    cases latest.symm.trans present
    rw [log, nudgesSinceOverdue_concat]
    exact tallied call stamp overdue
  earned := by
    rw [log]
    exact history.earned.concat earned

end

/-! ### One step -/

section
variable {u : Unicode} {instants : InstantText} {config : AlarmConfig} {rules : SweepRules}
  {s : DurableStore}

/-- The log of a stored ticket replays to it, but for texts and arrival times. -/
theorem DurableStore.Kept.replays (kept : s.Kept) {id : TicketId} {t : Ticket} {revision : Nat}
    (present : (s.aggregate id).latest = some (t, revision)) :
    ∃ q, evolveAll none (s.aggregate id).log = some q ∧ q.outline = t.outline := by
  have latest := (kept.outlined id).latest
  have replayed := evolveAll_outline none (s.aggregate id).log
  simp only [EventSourcing.Aggregate.map, present, Option.map_some] at latest
  rw [Option.map_none] at replayed
  rw [← replayed] at latest
  cases folded : evolveAll none (s.aggregate id).log with
  | none =>
    rw [folded] at latest
    cases latest
  | some q =>
    rw [folded, Option.map_some, Option.map_some, Option.some.injEq, Prod.mk.injEq] at latest
    exact ⟨q, rfl, latest.1.symm⟩

/-- A request neither writes what only the alarm writes nor makes a ticket Overdue. -/
theorem NudgeHistory.request (kept : s.Kept)
    (history : ∀ id, NudgeHistory config (s.aggregate id)) (ports : Ports) {action : QueueAction}
    (routed : action.Routed) (id : TicketId) :
    NudgeHistory config ((dispatched u instants s (ports, action)).aggregate id) := by
  cases read : action.useCase instants with
  | none =>
    rw [dispatched, dispatch_thrown read]
    exact history id
  | some c =>
    cases present : (s.aggregate id).latest with
    | none =>
      have store : dispatched u instants s (ports, action) =
          (c.run (Durable.repository u Durable.snapshotInterval) ports s).2 := dispatch_store read
      rw [store]
      rcases @call_absent u Durable.snapshotInterval s id kept ports c present with
        same | ⟨input, all, empty, issued⟩
      · exact same ▸ history id
      · rw [issued]
        refine NudgeHistory.append (empty ▸ history id) rfl rfl ?_ ?_
        · rintro call stamp ⟨⟩
        · rintro ⟨⟩
    | some latest =>
      obtain ⟨t, revision⟩ := latest
      obtain ⟨advance, advances, advanced⟩ :=
        @dispatched_advance _ _ _ u instants s kept (ports, action) read _ present
      obtain ⟨revision', latest⟩ := advanced.latest
      cases advance with
      | none =>
        have log : ((dispatched u instants s (ports, action)).aggregate id).log =
          (s.aggregate id).log := advanced.log.trans (List.append_nil _)
        constructor
        · intro t' _ call stamp present' overdue
          cases latest.symm.trans present'
          rw [log]
          exact (history id).tallied t revision call stamp present overdue
        · rw [log]
          exact (history id).earned
      | some result =>
        have result' := advances.routedResult (routed_useCase routed read)
        refine (history id).append advanced.log latest ?_ ?_
        · intro call stamp overdue
          rw [nudgesStep_other result'.event]
          have before := result'.overdue call stamp overdue
          exact (history id).tallied t revision call stamp present before
        · intro marked
          have other := result'.event
          rw [marked] at other
          cases other

/-- Where the no-show tick finds a ticket due, its history gives the no-show. -/
theorem NudgeHistory.noShowEarned {nowMs : Int} {id : TicketId} {t : Ticket} {revision : Nat}
    {e : TicketEvent} (kept : s.Kept) (read : config.rules Instant.before nowMs = some rules)
    (history : NudgeHistory config (s.aggregate id))
    (present : (s.aggregate id).latest = some (t, revision))
    (due : Tick.markNoShow.due rules t = true)
    (late : nowMs * nsPerMs ≤ e.occurredAt.epochNs) :
    NoShowEarned config (s.aggregate id).log e := by
  rw [AlarmConfig.rules_eq_some read] at due
  obtain ⟨call, stamp, last, overdue, used, nudged, early⟩ := due_markNoShow.mp due
  have tallied := history.tallied t revision call stamp present overdue
  obtain ⟨replay, replayed, same⟩ := kept.replays present
  have state : replay.state = .overdue := by
    have variant : replay.variant = t.variant := congrArg (fun t => t.variant) same
    rw [Ticket.state, variant, overdue]
    rfl
  refine ⟨⟨replay, replayed, state⟩, ?_, tallied.concat late ?_⟩
  · rw [← tallied.counted]
    exact Int.le_antisymm tallied.bounded used
  · intro last' nudged'
    cases nudged.symm.trans nudged'
    exact early

section
variable {nowMs : Int} {tick : Tick} {id : TicketId} {t : Ticket} {revision : Nat} {ports : Ports}
  {channel : Channel} {loaded : LoadedAggregate} {result : ApplyResult}

/-- The counters of a ticket which is Overdue after a tick. -/
theorem NudgeHistory.tick_tallied (nonneg : 0 ≤ config.maxNudges)
    (read : config.rules Instant.before nowMs = some rules)
    (history : NudgeHistory config (s.aggregate id))
    (present : (s.aggregate id).latest = some (t, revision))
    (variant : t.variant = loaded.state.variant)
    (due : tick.due rules loaded.state = true)
    (applies : Applies ((Durable.repository u Durable.snapshotInterval).reads s) ports
      (tick.useCase id channel) loaded result)
    (late : nowMs * nsPerMs ≤ (ports.nowInstant 0).epochNs) {call : CallStamp}
    {stamp : OverdueStamp} (overdue : result.ticket.variant = .overdue call stamp) :
    Tallied config stamp (nudgesStep (nudgesSinceOverdue (s.aggregate id).log) result.event) := by
  have limits := AlarmConfig.rules_eq_some read
  subst limits
  cases tick with
  | moveToOverdue =>
    cases applies with
    | moveToOverdue =>
      cases overdue
      exact ⟨rfl, nonneg, rfl, .nil⟩
  | nudge =>
    cases applies with
    | nudge _ _ q call' before =>
      cases overdue
      obtain ⟨_, _, same, below, early⟩ := due_nudge.mp due
      cases same
      have tallied := history.tallied t revision _ before present variant
      exact tallied.nudged (applyNudge q _ before _ _ _).event below late early
  | markNoShow =>
    cases applies with
    | markNoShow => cases overdue
  | lapseAppointment =>
    cases applies with
    | lapseAppointment _ q _ _ _ _ applied =>
      obtain ⟨_, _, rfl⟩ := applyLapseAppointment_eq_some applied
      cases overdue

/-- The no-show of a tick. -/
theorem NudgeHistory.tick_earned (kept : s.Kept)
    (read : config.rules Instant.before nowMs = some rules)
    (history : NudgeHistory config (s.aggregate id))
    (present : (s.aggregate id).latest = some (t, revision)) (due : tick.due rules t = true)
    (applies : Applies ((Durable.repository u Durable.snapshotInterval).reads s) ports
      (tick.useCase id channel) loaded result)
    (late : nowMs * nsPerMs ≤ (ports.nowInstant 0).epochNs)
    (marked : result.event.body = .noShowed .system) :
    NoShowEarned config (s.aggregate id).log result.event := by
  cases tick with
  | markNoShow =>
    cases applies with
    | markNoShow => exact history.noShowEarned kept read present due late
  | lapseAppointment =>
    cases applies with
    | lapseAppointment _ q _ _ _ _ applied =>
      obtain ⟨_, _, rfl⟩ := applyLapseAppointment_eq_some applied
      cases marked
  | _ =>
    cases applies
    cases marked

end

/-- The action of a tick on a ticket which it has selected. -/
theorem NudgeHistory.tick {nowMs : Int} {tick : Tick} {id : TicketId} {t : Ticket} {revision : Nat}
    (kept : s.Kept) (nonneg : 0 ≤ config.maxNudges)
    (read : config.rules Instant.before nowMs = some rules)
    (history : NudgeHistory config (s.aggregate id))
    (present : (s.aggregate id).latest = some (t, revision)) (stands : tick.Stands rules t)
    {ports : Ports} (late : nowMs * nsPerMs ≤ (ports.nowInstant 0).epochNs) (channel : Channel) :
    NudgeHistory config
      ((dispatched u instants s (ports, tick.action id channel)).aggregate id) := by
  rcases @tick_commit tick u instants s ports id channel kept with
    same | ⟨loaded, result, own, applies, moved⟩
  · rw [same]
    exact history
  have outline := moved.outline kept own present
  have due := (stands.of_outline outline).due applies
  have dueHere : tick.due rules t = true := (due_of_outline outline).trans due
  have variant : t.variant = loaded.state.variant := congrArg (fun t => t.variant) outline
  have advanced := @Moved.advanced _ _ _ _ _ t _ _ moved kept own
  obtain ⟨revision', latest⟩ := advanced.latest
  refine history.append advanced.log latest ?_ ?_
  · exact fun _ _ => history.tick_tallied nonneg read present variant due applies late
  · exact history.tick_earned kept read present dueHere applies late

end

/-! ### One nudge a sweep -/

def nudgesIn (s : DurableStore) (id : TicketId) : Nat :=
  (s.aggregate id).log.countP TicketEvent.isNudge

/-- The nudges of a ticket which the sweep may still come to. -/
def Sweep.nudgesLeft (sweep : Sweep) (id : TicketId) : Nat :=
  sweep.ticks.count .nudge + sweep.pending.count (.nudge, id)

theorem isNudge_of_tick {reads : Reads} {ports : Ports} {tick : Tick} {id : TicketId}
    {channel : Channel} {loaded : LoadedAggregate} {result : ApplyResult}
    (applies : Applies reads ports (tick.useCase id channel) loaded result) :
    result.event.isNudge = decide (tick = .nudge) := by
  cases tick with
  | lapseAppointment =>
    cases applies with
    | lapseAppointment _ q _ _ _ _ applied =>
      obtain ⟨_, _, rfl⟩ := applyLapseAppointment_eq_some applied
      rfl
  | _ =>
    cases applies
    rfl

section
variable {u : Unicode} {instants : InstantText} {rules : SweepRules} {sweep : Sweep}

theorem count_selected {s : DurableStore} (kept : s.Kept) (tick : Tick) (id : TicketId) :
    ((tick.selected rules s).map (fun id => (tick, id))).count (.nudge, id) ≤
      [tick].count .nudge := by
  by_cases nudge : tick = .nudge
  · subst nudge
    refine (List.nodup_iff_count_le_one.mp ?_ _).trans (Nat.le_of_eq List.count_singleton_self.symm)
    exact (selected_nodup kept).map (fun _ _ same => (Prod.mk.inj same).2)
  · rw [List.count_eq_zero_of_not_mem]
    · exact Nat.zero_le _
    · intro mem
      obtain ⟨_, _, same⟩ := List.mem_map.mp mem
      exact nudge (Prod.mk.inj same).1

/-- The action of a tick adds one nudge at most, to its ticket, and only the nudge tick does. -/
theorem tick_nudges {s : DurableStore} (kept : s.Kept) (ports : Ports) (channel : Channel)
    (tick : Tick) (other id : TicketId) :
    nudgesIn (dispatched u instants s (ports, tick.action other channel)) id ≤
      nudgesIn s id + [(tick, other)].count (.nudge, id) := by
  by_cases mine : id = other
  · subst mine
    rcases @tick_commit tick u instants s ports id channel kept with
      same | ⟨loaded, result, own, applies, moved⟩
    · rw [same]
      exact Nat.le_add_right _ _
    · have log := (@Moved.advanced _ _ _ _ _ result.ticket _ _ moved kept own).log
      have counted : nudgesIn (dispatched u instants s (ports, tick.action id channel)) id =
          nudgesIn s id + [result.event].countP TicketEvent.isNudge := by
        unfold nudgesIn
        rw [log]
        exact List.countP_append
      rw [counted, List.countP_singleton, isNudge_of_tick applies, List.count_singleton]
      by_cases nudge : tick = .nudge
      · simp [nudge]
      · simp [nudge]
  · unfold nudgesIn
    rw [tick_untouched kept mine]
    exact Nat.le_add_right _ _

theorem proceed_nudges (kept : sweep.store.Kept) (ports : Ports) (channel : Channel)
    (id : TicketId) :
    nudgesIn (sweep.proceed u instants rules ports channel).store id +
        (sweep.proceed u instants rules ports channel).nudgesLeft id ≤
      nudgesIn sweep.store id + sweep.nudgesLeft id := by
  obtain ⟨s, ticks, pending⟩ := sweep
  cases pending with
  | nil =>
    cases ticks with
    | nil => exact Nat.le_refl _
    | cons tick ticks =>
      have selected := @count_selected rules s kept tick id
      have split := @List.count_append Tick _ Tick.nudge [tick] ticks
      simp only [Sweep.proceed, Sweep.nudgesLeft, List.count_nil]
      rw [List.singleton_append] at split
      omega
  | cons head pending =>
    obtain ⟨tick, other⟩ := head
    have added := @tick_nudges u instants s kept ports channel tick other id
    have split := @List.count_append (Tick × TicketId) _ (.nudge, id) [(tick, other)] pending
    simp only [Sweep.proceed, Sweep.nudgesLeft]
    rw [List.singleton_append] at split
    omega

end

/-! ### Runs -/

/-- What every request and every sweep keeps. -/
structure DurableStore.Nudged (config : AlarmConfig) (s : DurableStore) : Prop where
  kept : s.Kept
  columned : s.Columned
  history : ∀ id, NudgeHistory config (s.aggregate id)

section
variable {u : Unicode} {instants : InstantText} {config : AlarmConfig} {rules : SweepRules}
  {sweep : Sweep} {turns : List (Ports × Channel)}

theorem run_nudges (sound : sweep.Sound rules) (id : TicketId) :
    nudgesIn (sweep.run u instants rules turns).store id +
        (sweep.run u instants rules turns).nudgesLeft id ≤
      nudgesIn sweep.store id + sweep.nudgesLeft id := by
  induction turns generalizing sweep with
  | nil => exact Nat.le_refl _
  | cons turn turns ih =>
    exact (ih (sound.proceed turn.1 turn.2)).trans (proceed_nudges sound.kept turn.1 turn.2 id)

theorem NudgeHistory.proceed {nowMs : Int} (nonneg : 0 ≤ config.maxNudges)
    (read : config.rules Instant.before nowMs = some rules) (sound : sweep.Sound rules)
    (history : ∀ id, NudgeHistory config (sweep.store.aggregate id)) {ports : Ports}
    (late : nowMs * nsPerMs ≤ (ports.nowInstant 0).epochNs) (channel : Channel) (id : TicketId) :
    NudgeHistory config
      ((sweep.proceed u instants rules ports channel).store.aggregate id) := by
  obtain ⟨s, ticks, pending⟩ := sweep
  cases pending with
  | nil => cases ticks <;> exact history id
  | cons head pending =>
    obtain ⟨tick, other⟩ := head
    obtain ⟨t, revision, present, stands⟩ := sound.stands (tick, other) List.mem_cons_self
    change NudgeHistory config
      ((dispatched u instants s (ports, tick.action other channel)).aggregate id)
    by_cases mine : id = other
    · subst mine
      exact .tick sound.kept nonneg read (history id) present stands late channel
    · rw [tick_untouched sound.kept mine]
      exact history id

theorem NudgeHistory.run {nowMs : Int} (nonneg : 0 ≤ config.maxNudges)
    (read : config.rules Instant.before nowMs = some rules) (sound : sweep.Sound rules)
    (history : ∀ id, NudgeHistory config (sweep.store.aggregate id))
    (late : ∀ turn ∈ turns, nowMs * nsPerMs ≤ (turn.1.nowInstant 0).epochNs) (id : TicketId) :
    NudgeHistory config ((sweep.run u instants rules turns).store.aggregate id) := by
  induction turns generalizing sweep with
  | nil => exact history id
  | cons turn turns ih =>
    refine ih (sound.proceed turn.1 turn.2) ?_ (fun t mem => late t (List.mem_cons_of_mem turn mem))
    exact NudgeHistory.proceed nonneg read sound history (late turn List.mem_cons_self) turn.2

theorem DurableStore.nudged_empty : DurableStore.empty.Nudged config where
  kept := kept_empty
  columned := columned_empty
  history := by
    intro id
    constructor
    · rintro t revision call stamp ⟨⟩
    · intro history e later same
      cases history <;> cases same

theorem DurableStore.Nudged.serve {s : DurableStore} (nudged : s.Nudged config)
    (nonneg : 0 ≤ config.maxNudges) {event : ShopEvent} (timely : event.Timely) :
    (event.serve u instants config s).Nudged config := by
  cases event with
  | request ports action routed =>
    exact ⟨dispatched_kept nudged.kept _,
      columned_steps (dispatch_steps nudged.kept) nudged.kept nudged.columned,
      NudgeHistory.request nudged.kept nudged.history ports routed⟩
  | alarm nowMs turns =>
    simp only [ShopEvent.serve, alarm]
    split
    · exact nudged
    · rename_i rules read
      have sound : (Sweep.start s).Sound rules := .start nudged.kept nudged.columned
      have ended := @Sweep.Sound.run u instants rules _ turns sound
      exact ⟨ended.kept, ended.columned, .run nonneg read sound nudged.history timely⟩

theorem alarm_nudges {s : DurableStore} (nudged : s.Nudged config) (nowMs : Int) (id : TicketId) :
    nudgesIn (alarm u instants config nowMs turns s) id ≤ nudgesIn s id + 1 := by
  unfold alarm
  split
  · exact Nat.le_succ _
  · rename_i rules read
    have sound : (Sweep.start s).Sound rules := .start nudged.kept nudged.columned
    have bound := @run_nudges u instants rules _ turns sound id
    have initial : (Sweep.start s).nudgesLeft id = 1 := rfl
    rw [initial] at bound
    exact Nat.le_of_add_right_le bound

end

/-- The nudge protocol. In every run of requests and sweeps, in which no sweep reads the clock
before its start: every Overdue ticket has been nudged `maxNudges` times at most, every no-show
by the system is earned, and no sweep nudges a ticket twice. -/
theorem nudge_protocol (u : Unicode) (instants : InstantText) (config : AlarmConfig)
    (nonneg : 0 ≤ config.maxNudges) (events : List ShopEvent)
    (timely : ∀ event ∈ events, event.Timely) :
    Trace.Always (ShopEvent.serve u instants config)
        (fun s => (∀ r ∈ s.tickets, ∀ call stamp, r.payload.json.variant = .overdue call stamp →
            (stamp.nudgeCount : Int) ≤ config.maxNudges) ∧
          ∀ id, NoShowsEarned config (s.aggregate id).log) events .empty ∧
      Trace.Throughout (ShopEvent.serve u instants config)
        (fun s event => ∀ nowMs turns, event = .alarm nowMs turns → ∀ id,
          nudgesIn (event.serve u instants config s) id ≤ nudgesIn s id + 1) events .empty := by
  have keeps : ∀ event ∈ events, ∀ s : DurableStore, s.Nudged config →
      (event.serve u instants config s).Nudged config :=
    fun event mem s nudged => nudged.serve nonneg (timely event mem)
  constructor
  · refine Trace.always_of_invariant keeps ?_ DurableStore.nudged_empty
    intro s nudged
    refine ⟨?_, fun id => (nudged.history id).earned⟩
    intro r mem call stamp overdue
    have found : s.row r.id = some r := Table.find_of_mem nudged.kept.tidy.ticketsKeyed mem
    have present : (s.aggregate r.id).latest = some (r.payload.json, r.revision) := by
      rw [DurableStore.aggregate, found]
      rfl
    exact ((nudged.history r.id).tallied _ _ call stamp present overdue).bounded
  · refine Trace.throughout_of_invariant keeps ?_ DurableStore.nudged_empty
    rintro _ _ s nudged nowMs turns rfl id
    exact alarm_nudges nudged nowMs id

namespace Sample

def latestPorts (k : Nat) : Ports :=
  { ports k with nowInstant := fun _ => ⟨4 * nsPerMs, by decide⟩ }

/-- One customer, who does not turn up: Overdue and nudged by the first sweep, a no-show by the
second. -/
def noShow : List ShopEvent :=
  [.request (ports 1) (.issueTicket handle none none none) trivial,
    .request (ports 2) (.callNext .staff none) trivial,
    .alarm 2 ([3, 4, 5, 6, 7].map fun k => (laterPorts k, .ws)),
    .alarm 4 ([8, 9, 10, 11].map fun k => (latestPorts k, .ws))]

end Sample

theorem nudge_protocol_noShow :
    (Sample.noShow.foldl (ShopEvent.serve Sample.unicode Sample.noInstants Sample.config)
        .empty).tickets.map TicketRow.state = [.noShow] ∧
      Trace.Always (ShopEvent.serve Sample.unicode Sample.noInstants Sample.config)
        (fun s => (∀ r ∈ s.tickets, ∀ call stamp, r.payload.json.variant = .overdue call stamp →
            (stamp.nudgeCount : Int) ≤ 1) ∧
          ∀ id, NoShowsEarned Sample.config (s.aggregate id).log) Sample.noShow .empty := by
  refine ⟨by decide +kernel, ?_⟩
  refine (nudge_protocol Sample.unicode Sample.noInstants Sample.config (by decide) Sample.noShow
    ?_).1
  intro event mem
  simp only [Sample.noShow, List.mem_cons, List.not_mem_nil, or_false] at mem
  rcases mem with rfl | rfl | rfl | rfl
  · trivial
  · trivial
  · intro turn mem
    obtain ⟨k, _, rfl⟩ := List.mem_map.mp mem
    exact Int.le_refl _
  · intro turn mem
    obtain ⟨k, _, rfl⟩ := List.mem_map.mp mem
    exact Int.le_refl _

end SlotBooking
