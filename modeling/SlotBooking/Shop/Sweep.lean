import SlotBooking.Library.Trace
import SlotBooking.Runs.Rows
import SlotBooking.Shop.Routes

/-! The alarm. Four ticks, each of which selects rows by its predicate and then dispatches one
action for each of them. Other requests may be served between any two dispatches. A push
notification decides nothing but the channel of a nudge. -/
namespace SlotBooking

/-- The settings of the alarm; durations in milliseconds. -/
structure AlarmConfig where
  overdueAfterCalled : Int
  nudgeInterval : Int
  maxNudges : Int
  appointmentGrace : Int

/-- What one sweep compares with: cutoffs in milliseconds since the epoch, and how a stored time
is compared with a cutoff. -/
structure SweepRules where
  maxNudges : Int
  calledCutoff : Int
  nudgeCutoff : Int
  appointmentCutoff : Int
  earlier : Instant → Int → Bool

/-- Strictly earlier, as instants. -/
def Instant.before (t : Instant) (ms : Int) : Bool := t.epochNs < ms * nsPerMs

def isDate (ms : Int) : Bool := -8640000000000000 ≤ ms && ms ≤ 8640000000000000

/-- No value where `toISOString` throws. -/
def AlarmConfig.rules (config : AlarmConfig) (earlier : Instant → Int → Bool) (nowMs : Int) :
    Option SweepRules :=
  let calledCutoff := nowMs - config.overdueAfterCalled
  let nudgeCutoff := nowMs - config.nudgeInterval
  let appointmentCutoff := nowMs - config.appointmentGrace
  if isDate calledCutoff && isDate nudgeCutoff && isDate appointmentCutoff then
    some { maxNudges := config.maxNudges, calledCutoff, nudgeCutoff, appointmentCutoff, earlier }
  else none

theorem AlarmConfig.rules_eq_some {config : AlarmConfig} {earlier : Instant → Int → Bool}
    {nowMs : Int} {rules : SweepRules} (read : config.rules earlier nowMs = some rules) : rules =
      ⟨config.maxNudges, nowMs - config.overdueAfterCalled, nowMs - config.nudgeInterval,
        nowMs - config.appointmentGrace, earlier⟩ := by
  unfold AlarmConfig.rules at read
  simp only at read
  split at read
  · exact (Option.some.inj read).symm
  · cases read

/-! ### Ticks -/

inductive Tick where
  | moveToOverdue
  | nudge
  | markNoShow
  | lapseAppointment
deriving DecidableEq

/-- The predicates of the four queries; a comparison with NULL is not true. -/
def Tick.selects (rules : SweepRules) : Tick → TicketRow → Bool
  | .moveToOverdue, r =>
    r.state = .called && r.calledAt.any (rules.earlier · rules.calledCutoff)
  | .nudge, r =>
    r.state = .overdue && (r.nudgeCount : Int) < rules.maxNudges &&
      r.lastNudgedAt.all (rules.earlier · rules.nudgeCutoff)
  | .markNoShow, r =>
    r.state = .overdue && rules.maxNudges ≤ r.nudgeCount &&
      r.lastNudgedAt.any (rules.earlier · rules.nudgeCutoff)
  | .lapseAppointment, r =>
    r.state = .waiting && r.lane = some .reservation &&
      r.appointmentAt.any (rules.earlier · rules.appointmentCutoff)

def Tick.action (id : TicketId) (channel : Channel) : Tick → QueueAction
  | .moveToOverdue => .moveToOverdue id
  | .nudge => .nudge id channel
  | .markNoShow => .markNoShow id .system
  | .lapseAppointment => .lapseAppointment id

def Tick.selected (tick : Tick) (rules : SweepRules) (s : DurableStore) : List TicketId :=
  (s.tickets.filter (tick.selects rules)).map TicketRow.id

def Tick.useCase (id : TicketId) (channel : Channel) : Tick → UseCase
  | .moveToOverdue => .moveToOverdue id
  | .nudge => .nudge id channel
  | .markNoShow => .markNoShow id .system
  | .lapseAppointment => .lapseAppointment id

/-! ### The sweep -/

/-- Where a sweep stands: the ticks to come, and what the last tick has selected but not yet
dispatched. -/
structure Sweep where
  store : DurableStore
  ticks : List Tick
  pending : List (Tick × TicketId)

def Sweep.start (s : DurableStore) : Sweep :=
  ⟨s, [.moveToOverdue, .nudge, .markNoShow, .lapseAppointment], []⟩

/-- The alarm goes on, or another request is served. -/
inductive SweepStep where
  | proceed (ports : Ports) (channel : Channel)
  | other (ports : Ports) (action : QueueAction) (routed : action.Routed)

section
variable (u : Unicode) (instants : InstantText) (rules : SweepRules)

def Sweep.proceed (sweep : Sweep) (ports : Ports) (channel : Channel) : Sweep :=
  match sweep.pending with
  | (tick, id) :: pending =>
    { sweep with store := dispatched u instants sweep.store (ports, tick.action id channel),
                 pending }
  | [] =>
    match sweep.ticks with
    | tick :: ticks =>
      { sweep with ticks, pending := (tick.selected rules sweep.store).map (fun id => (tick, id)) }
    | [] => sweep

def Sweep.step (sweep : Sweep) : SweepStep → Sweep
  | .proceed ports channel => sweep.proceed u instants rules ports channel
  | .other ports action _ =>
    { sweep with store := dispatched u instants sweep.store (ports, action) }

end

/-! ### Runs of the shop -/

/-- What happens to the shop: a request, or an alarm which gets as far as its turns last. -/
inductive ShopEvent where
  | request (ports : Ports) (action : QueueAction) (routed : action.Routed)
  | alarm (nowMs : Int) (turns : List (Ports × Channel))

/-- No turn of a sweep reads the clock before its start. -/
def ShopEvent.Timely : ShopEvent → Prop
  | .request _ _ _ => True
  | .alarm nowMs turns => ∀ turn ∈ turns, nowMs * nsPerMs ≤ (turn.1.nowInstant 0).epochNs

section
variable (u : Unicode) (instants : InstantText)

/-- A sweep with no request in between. -/
def Sweep.run (rules : SweepRules) (turns : List (Ports × Channel)) (sweep : Sweep) : Sweep :=
  turns.foldl (fun sweep turn => sweep.proceed u instants rules turn.1 turn.2) sweep

/-- Stored times are compared as instants. -/
def alarm (config : AlarmConfig) (nowMs : Int) (turns : List (Ports × Channel))
    (s : DurableStore) : DurableStore :=
  match config.rules Instant.before nowMs with
  | none => s
  | some rules => ((Sweep.start s).run u instants rules turns).store

def ShopEvent.serve (config : AlarmConfig) (s : DurableStore) : ShopEvent → DurableStore
  | .request ports action _ => dispatched u instants s (ports, action)
  | .alarm nowMs turns => SlotBooking.alarm u instants config nowMs turns s

end

/-! ### Selection -/

section
variable {rules : SweepRules} {tick : Tick}

/-- The predicate of a tick on a ticket, through the columns it is stored with. -/
def Tick.due (rules : SweepRules) (tick : Tick) (t : Ticket) : Bool :=
  tick.selects rules (ticketColumns t 0 ⟨t⟩)

theorem selects_columned {r : TicketRow} (columned : r.Columned) :
    tick.selects rules r = tick.due rules r.payload.json := by
  have repeated : tick.selects rules r = tick.selects rules
      (updateTicketRow r (ticketColumns r.payload.json r.revision r.payload)) := by
    rw [columned]
  rw [repeated]
  cases tick <;> rfl

theorem due_outline (t : Ticket) : tick.due rules t.outline = tick.due rules t := by
  cases tick <;> rfl

theorem due_of_outline {t q : Ticket} (same : t.outline = q.outline) :
    tick.due rules t = tick.due rules q := by
  rw [← due_outline t, same, due_outline]

theorem called_of_state {t : Ticket} (state : t.state = .called) :
    ∃ call, t.variant = .called call := by
  obtain ⟨t, variant⟩ := t
  cases variant with
  | called call => exact ⟨call, rfl⟩
  | _ => cases state

theorem overdue_of_state {t : Ticket} (state : t.state = .overdue) :
    ∃ call stamp, t.variant = .overdue call stamp := by
  obtain ⟨t, variant⟩ := t
  cases variant with
  | overdue call stamp => exact ⟨call, stamp, rfl⟩
  | _ => cases state

theorem due_moveToOverdue {t : Ticket} : Tick.moveToOverdue.due rules t = true ↔
    ∃ call, t.variant = .called call ∧ rules.earlier call.calledAt rules.calledCutoff = true := by
  obtain ⟨t, variant⟩ := t
  cases variant <;> simp [Tick.due, Tick.selects, ticketColumns, Ticket.state,
    TicketVariant.state, TicketVariant.call?]

theorem due_nudge {t : Ticket} : Tick.nudge.due rules t = true ↔
    ∃ call stamp, t.variant = .overdue call stamp ∧ (stamp.nudgeCount : Int) < rules.maxNudges ∧
      ∀ last, stamp.lastNudgedAt = some last → rules.earlier last rules.nudgeCutoff = true := by
  obtain ⟨t, variant⟩ := t
  cases variant with
  | overdue call stamp =>
    cases last : stamp.lastNudgedAt <;> simp [Tick.due, Tick.selects, ticketColumns, Ticket.state,
      TicketVariant.state, TicketVariant.overdue?, last]
  | _ => simp [Tick.due, Tick.selects, ticketColumns, Ticket.state, TicketVariant.state]

theorem due_markNoShow {t : Ticket} : Tick.markNoShow.due rules t = true ↔
    ∃ call stamp last, t.variant = .overdue call stamp ∧ rules.maxNudges ≤ stamp.nudgeCount ∧
      stamp.lastNudgedAt = some last ∧ rules.earlier last rules.nudgeCutoff = true := by
  obtain ⟨t, variant⟩ := t
  cases variant with
  | overdue call stamp =>
    cases last : stamp.lastNudgedAt <;> simp [Tick.due, Tick.selects, ticketColumns, Ticket.state,
      TicketVariant.state, TicketVariant.overdue?, last]
  | _ => simp [Tick.due, Tick.selects, ticketColumns, Ticket.state, TicketVariant.state]

theorem due_lapseAppointment {t : Ticket} : Tick.lapseAppointment.due rules t = true ↔
    t.variant = .waiting ∧ t.lane = .reservation ∧
      ∃ appointmentAt, t.appointmentAt = some appointmentAt ∧
        rules.earlier appointmentAt rules.appointmentCutoff = true := by
  obtain ⟨t, variant⟩ := t
  cases variant <;> cases booked : t.appointmentAt <;>
    simp [Tick.due, Tick.selects, ticketColumns, Ticket.state, TicketVariant.state, booked]

theorem mem_selected {s : DurableStore} {id : TicketId} :
    id ∈ tick.selected rules s ↔ ∃ r ∈ s.tickets, r.id = id ∧ tick.selects rules r = true := by
  simp only [Tick.selected, List.mem_map, List.mem_filter]
  constructor
  · rintro ⟨r, ⟨mem, chosen⟩, own⟩
    exact ⟨r, mem, own, chosen⟩
  · rintro ⟨r, mem, own, chosen⟩
    exact ⟨r, ⟨mem, chosen⟩, own⟩

theorem selected_nodup {s : DurableStore} (kept : s.Kept) : (tick.selected rules s).Nodup :=
  kept.tidy.ticketsKeyed.sublist (List.filter_sublist.map _)

/-! ### What an action of the sweep commits -/

variable {u : Unicode} {instants : InstantText} {s : DurableStore} {ports : Ports} {id : TicketId}
  {channel : Channel}

theorem useCase_action : (tick.action id channel).useCase instants =
    some (tick.useCase id channel) := by
  cases tick <;> rfl

/-- Nothing, or its transition of its ticket. -/
theorem tick_commit (kept : s.Kept) :
    dispatched u instants s (ports, tick.action id channel) = s ∨
      ∃ loaded result, loaded.state.id = id ∧
        Applies ((Durable.repository u Durable.snapshotInterval).reads s) ports
          (tick.useCase id channel) loaded result ∧
        Moved u Durable.snapshotInterval s
          (dispatched u instants s (ports, tick.action id channel)) loaded result := by
  have commit := @call_commit u Durable.snapshotInterval s kept ports (tick.useCase id channel)
  rw [dispatched, dispatch_store useCase_action]
  generalize c : tick.useCase id channel = command at commit ⊢
  generalize (command.run (Durable.repository u Durable.snapshotInterval) ports s).2 = s' at commit
  cases commit with
  | unchanged => exact .inl rfl
  | issued | called => cases tick <;> cases c
  | moved _ loaded result _ applies step =>
    have own : ∀ {found : LoadedAggregate}, Durable.load u s id = .ok found → found.state.id = id :=
      load_id kept.tidy (kept.outlined id)
    refine .inr ⟨loaded, result, ?_, applies, step⟩
    subst c
    cases tick with
    | moveToOverdue =>
      cases applies with
      | moveToOverdue _ _ _ _ read => exact own read
    | nudge =>
      cases applies with
      | nudge _ _ _ _ _ _ read => exact own read
    | markNoShow =>
      cases applies with
      | markNoShow _ _ _ _ _ _ _ read => exact own read
    | lapseAppointment =>
      cases applies with
      | lapseAppointment _ _ _ _ _ read => exact own read

theorem tick_untouched (kept : s.Kept) {other : TicketId} (different : other ≠ id) :
    (dispatched u instants s (ports, tick.action id channel)).aggregate other =
      s.aggregate other := by
  rcases @tick_commit tick u instants s ports id channel kept with
    same | ⟨loaded, result, own, _, moved⟩
  · rw [same]
  · exact (moved.untouched kept (own ▸ different)).aggregate

end

end SlotBooking
