import SlotBooking.Shop.Sweep

/-! Requests served in the middle of a sweep. Whatever they do to a ticket which a tick has
selected, the use case checks no more than the state of the ticket when its turn comes. -/
namespace SlotBooking

/-- In every state in which the action of the tick commits, the tick would select the ticket. -/
def Tick.Stands (rules : SweepRules) : Tick → Ticket → Prop
  | .moveToOverdue, t => t.state = .called → Tick.moveToOverdue.due rules t = true
  | .nudge, t => t.state = .overdue → Tick.nudge.due rules t = true
  | .markNoShow, t =>
    t.state ≠ .called ∧ (t.state = .overdue → Tick.markNoShow.due rules t = true)
  | .lapseAppointment, t => t.lane = .reservation ∧ ∃ appointmentAt,
    t.appointmentAt = some appointmentAt ∧
      rules.earlier appointmentAt rules.appointmentCutoff = true

/-- A command which leaves a selected ticket alone, as far as its tick is concerned: it does not
call the ticket again, at the cutoff or later where the tick would see an earlier call, and it
does not put the appointment at the cutoff or later. -/
def Tick.Spared (rules : SweepRules) (reads : Reads) (ports : Ports) (c : UseCase) :
    Tick → TicketId → Prop
  | .moveToOverdue, id => ∀ time, Calls reads ports c id time →
    rules.earlier time rules.calledCutoff = true
  | .nudge, _ => True
  | .markNoShow, id => ∀ time, ¬ Calls reads ports c id time
  | .lapseAppointment, id => ∀ target, RescheduledTo reads ports c id target →
    rules.earlier target rules.appointmentCutoff = true

section
variable (u : Unicode) (instants : InstantText) (rules : SweepRules)

/-- Requests served during the sweep spare the tickets which it has yet to act on. -/
def Undisturbed (sweep : Sweep) : SweepStep → Prop
  | .proceed _ _ => True
  | .other ports action _ => ∀ c, action.useCase instants = some c → ∀ p ∈ sweep.pending,
    p.1.Spared rules ((Durable.repository u Durable.snapshotInterval).reads sweep.store) ports c p.2

/-- Where an action of the sweep commits, its tick would select the ticket still. -/
def Justified (sweep : Sweep) : SweepStep → Prop
  | .other _ _ _ => True
  | .proceed ports channel => ∀ tick id pending, sweep.pending = (tick, id) :: pending →
    dispatched u instants sweep.store (ports, tick.action id channel) ≠ sweep.store →
      ∃ row, sweep.store.row id = some row ∧ tick.selects rules row = true

end

/-- Every pending action is about a ticket which is there, at most one about each, and none of
them can commit but as its tick intends. -/
structure Sweep.Sound (rules : SweepRules) (sweep : Sweep) : Prop where
  kept : sweep.store.Kept
  columned : sweep.store.Columned
  distinct : (sweep.pending.map Prod.snd).Nodup
  stands : ∀ p ∈ sweep.pending, ∃ t revision,
    (sweep.store.aggregate p.2).latest = some (t, revision) ∧ p.1.Stands rules t

section
variable {u : Unicode} {instants : InstantText} {rules : SweepRules} {tick : Tick} {t : Ticket}

theorem Tick.Stands.of_outline {q : Ticket} (stands : tick.Stands rules t)
    (same : t.outline = q.outline) : tick.Stands rules q := by
  have state : t.state = q.state := congrArg (fun t => t.state) same
  have lane : t.lane = q.lane := congrArg (fun t => t.lane) same
  have appointmentAt : t.appointmentAt = q.appointmentAt :=
    congrArg (fun t => t.appointmentAt) same
  cases tick <;>
    simpa only [Tick.Stands, state, lane, appointmentAt, due_of_outline same] using stands

theorem Tick.Stands.of_due (due : tick.due rules t = true) : tick.Stands rules t := by
  cases tick with
  | moveToOverdue => exact fun _ => due
  | nudge => exact fun _ => due
  | markNoShow =>
    obtain ⟨call, stamp, _, overdue, _⟩ := due_markNoShow.mp due
    refine ⟨fun called => ?_, fun _ => due⟩
    rw [Ticket.state, overdue] at called
    cases called
  | lapseAppointment => exact (due_lapseAppointment.mp due).2

/-- What the routes make of a ticket. -/
theorem Tick.Stands.routed {reads : Reads} {ports : Ports} {id : TicketId} {c : UseCase}
    {result : ApplyResult} (stands : tick.Stands rules t)
    (routed : RoutedResult reads ports id t c result)
    (spared : tick.Spared rules reads ports c id) : tick.Stands rules result.ticket := by
  cases tick with
  | moveToOverdue =>
    intro state
    obtain ⟨call, called⟩ := called_of_state state
    rcases routed.called call called with before | again
    · obtain ⟨_, same, earlier⟩ :=
        due_moveToOverdue.mp (stands (congrArg TicketVariant.state before))
      cases before.symm.trans same
      exact due_moveToOverdue.mpr ⟨call, called, earlier⟩
    · exact due_moveToOverdue.mpr ⟨call, called, spared _ again⟩
  | nudge =>
    intro state
    obtain ⟨call, stamp, overdue⟩ := overdue_of_state state
    have before := routed.overdue call stamp overdue
    obtain ⟨_, _, same, left_, earlier⟩ :=
      due_nudge.mp (stands (congrArg TicketVariant.state before))
    cases before.symm.trans same
    exact due_nudge.mpr ⟨call, stamp, overdue, left_, earlier⟩
  | markNoShow =>
    constructor
    · intro state
      obtain ⟨call, called⟩ := called_of_state state
      rcases routed.called call called with before | again
      · exact stands.1 (congrArg TicketVariant.state before)
      · exact spared _ again
    · intro state
      obtain ⟨call, stamp, overdue⟩ := overdue_of_state state
      have before := routed.overdue call stamp overdue
      obtain ⟨_, _, last, same, used, nudged, earlier⟩ :=
        due_markNoShow.mp (stands.2 (congrArg TicketVariant.state before))
      cases before.symm.trans same
      exact due_markNoShow.mpr ⟨call, stamp, last, overdue, used, nudged, earlier⟩
  | lapseAppointment =>
    obtain ⟨lane, appointmentAt, booked, earlier⟩ := stands
    refine ⟨routed.lane.trans lane, ?_⟩
    rcases routed.appointmentAt with same | ⟨target, moved, rescheduled⟩
    · exact ⟨appointmentAt, same.trans booked, earlier⟩
    · exact ⟨target, moved, spared target rescheduled⟩

/-- The use case commits in the states in which the ticket stands only if its tick is due. -/
theorem Tick.Stands.due {reads : Reads} {ports : Ports} {id : TicketId} {channel : Channel}
    {loaded : LoadedAggregate} {result : ApplyResult} (stands : tick.Stands rules loaded.state)
    (applies : Applies reads ports (tick.useCase id channel) loaded result) :
    tick.due rules loaded.state = true := by
  cases tick with
  | moveToOverdue =>
    cases applies with
    | moveToOverdue => exact stands rfl
  | nudge =>
    cases applies with
    | nudge => exact stands rfl
  | markNoShow =>
    cases applies with
    | markNoShow _ _ q variant stamp revision serving =>
      rcases serving with rfl | ⟨overdue, rfl⟩
      · exact absurd rfl stands.1
      · exact stands.2 rfl
  | lapseAppointment =>
    cases applies with
    | lapseAppointment => exact due_lapseAppointment.mpr ⟨rfl, stands⟩

/-! ### The sweep keeps its invariant -/

theorem row_of_latest {s : DurableStore} {id : TicketId} {revision : Nat}
    (present : (s.aggregate id).latest = some (t, revision)) :
    ∃ row, s.row id = some row ∧ row.payload.json = t := by
  obtain ⟨row, found, same⟩ := Option.map_eq_some_iff.mp present
  exact ⟨row, found, congrArg Prod.fst same⟩

theorem Sweep.Sound.start {s : DurableStore} (kept : s.Kept) (columned : s.Columned) :
    (Sweep.start s).Sound rules where
  kept := kept
  columned := columned
  distinct := List.nodup_nil
  stands := by simp [Sweep.start]

theorem Sweep.Sound.other {sweep : Sweep} (sound : sweep.Sound rules) (ports : Ports)
    (action : QueueAction) (routed : action.Routed)
    (undisturbed : Undisturbed u instants rules sweep (.other ports action routed)) :
    (sweep.step u instants rules (.other ports action routed)).Sound rules where
  kept := dispatched_kept sound.kept (ports, action)
  columned := columned_steps (dispatch_steps sound.kept) sound.kept sound.columned
  distinct := sound.distinct
  stands := by
    intro p mem
    obtain ⟨t, revision, present, stands⟩ := sound.stands p mem
    change ∃ t revision, ((dispatched u instants sweep.store (ports, action)).aggregate p.2).latest =
      some (t, revision) ∧ p.1.Stands rules t
    cases read : action.useCase instants with
    | none =>
      rw [dispatched, dispatch_thrown read]
      exact ⟨t, revision, present, stands⟩
    | some c =>
      obtain ⟨advance, advances, advanced⟩ :=
        @dispatched_advance _ _ _ u instants sweep.store sound.kept (ports, action) read _ present
      obtain ⟨revision', latest⟩ := advanced.latest
      refine ⟨_, revision', latest, ?_⟩
      cases advance with
      | none => exact stands
      | some result =>
        exact stands.routed (advances.routedResult (routed_useCase routed read))
          (undisturbed c read p mem)

theorem Sweep.Sound.proceed {sweep : Sweep} (sound : sweep.Sound rules) (ports : Ports)
    (channel : Channel) : (sweep.proceed u instants rules ports channel).Sound rules := by
  obtain ⟨s, ticks, pending⟩ := sweep
  cases pending with
  | nil =>
    cases ticks with
    | nil => exact sound
    | cons tick ticks =>
      refine ⟨sound.kept, sound.columned, ?_, ?_⟩
      · simp only [Sweep.proceed, List.map_map]
        have ids : (Prod.snd ∘ fun id : TicketId => (tick, id)) = id := rfl
        rw [ids, List.map_id]
        exact selected_nodup sound.kept
      · intro p mem
        obtain ⟨id, chosen, rfl⟩ := List.mem_map.mp mem
        obtain ⟨r, inTable, own, selects⟩ := mem_selected.mp chosen
        have found : s.row id = some r :=
          own ▸ Table.find_of_mem sound.kept.tidy.ticketsKeyed inTable
        refine ⟨r.payload.json, r.revision, ?_, .of_due ?_⟩
        · simp only [Sweep.proceed, DurableStore.aggregate, found]
          rfl
        · rw [← selects_columned (sound.columned r inTable)]
          exact selects
  | cons head pending =>
    obtain ⟨tick, id⟩ := head
    obtain ⟨absent, distinct⟩ := List.nodup_cons.mp sound.distinct
    refine ⟨dispatched_kept sound.kept _,
      columned_steps (dispatch_steps sound.kept) sound.kept sound.columned, distinct, ?_⟩
    intro p mem
    obtain ⟨t, revision, present, stands⟩ := sound.stands p (List.mem_cons_of_mem _ mem)
    have inRest : p.2 ∈ pending.map Prod.snd := List.mem_map_of_mem mem
    have different : p.2 ≠ id := fun same => absent (same ▸ inRest)
    refine ⟨t, revision, ?_, stands⟩
    simp only [Sweep.proceed]
    rw [tick_untouched sound.kept different]
    exact present

theorem Sweep.Sound.run {sweep : Sweep} {turns : List (Ports × Channel)}
    (sound : sweep.Sound rules) :
    (sweep.run u instants rules turns).Sound rules := by
  induction turns generalizing sweep with
  | nil => exact sound
  | cons turn turns ih => exact ih (sound.proceed turn.1 turn.2)

theorem Sweep.Sound.justified {sweep : Sweep} (sound : sweep.Sound rules) (step : SweepStep) :
    Justified u instants rules sweep step := by
  cases step with
  | other => trivial
  | proceed ports channel =>
    intro tick id pending same commits
    have mem : (tick, id) ∈ sweep.pending := same ▸ List.mem_cons_self
    obtain ⟨t, revision, present, stands⟩ := sound.stands _ mem
    rcases @tick_commit tick u instants sweep.store ports id channel sound.kept with
      unchanged | ⟨loaded, result, own, applies, moved⟩
    · exact absurd unchanged commits
    · have outline := moved.outline sound.kept own present
      have due := (stands.of_outline outline).due applies
      obtain ⟨row, found, rfl⟩ := row_of_latest present
      refine ⟨row, found, ?_⟩
      rw [selects_columned (sound.columned row (Table.find_some found).1), due_of_outline outline]
      exact due

end

/-- In every interleaving in which the requests served during the sweep spare the tickets it has
selected, each of its actions which commits is still justified when it does. -/
theorem sweep_justified (u : Unicode) (instants : InstantText) (rules : SweepRules)
    (calls : List (Ports × QueueAction)) (steps : List SweepStep)
    (undisturbed : Trace.Throughout (Sweep.step u instants rules) (Undisturbed u instants rules)
      steps (.start (runDispatches u instants calls .empty))) :
    Trace.Throughout (Sweep.step u instants rules) (Justified u instants rules) steps
      (.start (runDispatches u instants calls .empty)) := by
  have reached := @runDispatches_steps u instants .empty DurableStore.kept_empty calls
  have sound : (Sweep.start (runDispatches u instants calls .empty)).Sound rules :=
    .start (reached.kept DurableStore.kept_empty)
      (columned_steps reached DurableStore.kept_empty columned_empty)
  refine undisturbed.of_invariant (fun sweep step sound spared => ?_) sound
  refine ⟨?_, sound.justified step⟩
  cases step with
  | proceed ports channel => exact sound.proceed ports channel
  | other ports action routed => exact sound.other ports action routed spared

namespace Sample

/-- Called, overdue and nudged, all in the first millisecond. -/
def nudgedOnce : List (Ports × QueueAction) :=
  [(ports 1, .issueTicket handle none none none), (ports 2, .callNext .staff none),
    (ports 3, .moveToOverdue ⟨1⟩), (ports 4, .nudge ⟨1⟩ .ws)]

def config : AlarmConfig := ⟨1, 1, 1, 1⟩

/-- One nudge is all; the cutoffs are one millisecond after the epoch. -/
def rules : SweepRules := ⟨1, 1, 1, 1, Instant.before⟩

def laterPorts (k : Nat) : Ports :=
  { ports k with nowInstant := fun _ => ⟨2 * nsPerMs, by decide⟩ }

/-- The three ticks up to the selection for the no-show. -/
def selecting : List SweepStep :=
  [.proceed (laterPorts 5) .ws, .proceed (laterPorts 5) .ws, .proceed (laterPorts 5) .ws]

/-- The customer comes back and is called again. -/
def calledAgain : List SweepStep :=
  [.other (laterPorts 5) (.recall ⟨1⟩ .staff) trivial,
    .other (laterPorts 6) (.callSpecific ⟨1⟩ .staff) trivial]

end Sample

theorem sweep_justified_sample :
    Trace.Throughout (Sweep.step Sample.unicode Sample.noInstants Sample.rules)
      (Justified Sample.unicode Sample.noInstants Sample.rules)
      (Sample.selecting ++ [.other (Sample.laterPorts 5) (.recall ⟨1⟩ .staff) trivial,
        .proceed (Sample.laterPorts 7) .ws])
      (.start (runDispatches Sample.unicode Sample.noInstants Sample.nudgedOnce .empty)) := by
  apply sweep_justified
  refine ⟨trivial, trivial, trivial, ?_, trivial, trivial⟩
  rintro c ⟨⟩ ⟨tick, id⟩ _
  cases tick with
  | moveToOverdue | markNoShow =>
    intro time calls
    cases calls
  | nudge => trivial
  | lapseAppointment =>
    rintro target ⟨input, loaded, same, _⟩
    cases same

/-- The sweep marks as a no-show the customer who has just been called again. -/
theorem called_again_marked_no_show :
    ¬ Trace.Throughout (Sweep.step Sample.unicode Sample.noInstants Sample.rules)
      (Justified Sample.unicode Sample.noInstants Sample.rules)
      (Sample.selecting ++ Sample.calledAgain ++ [.proceed (Sample.laterPorts 7) .ws])
      (.start (runDispatches Sample.unicode Sample.noInstants Sample.nudgedOnce .empty)) := by
  intro justified
  obtain ⟨last, _⟩ := (Trace.throughout_append.mp justified).2
  obtain ⟨row, found, selects⟩ := last .markNoShow ⟨1⟩ [] (by decide +kernel) (by decide +kernel)
  have refused : ((((Sample.selecting ++ Sample.calledAgain).foldl
      (Sweep.step Sample.unicode Sample.noInstants Sample.rules)
      (.start (runDispatches Sample.unicode Sample.noInstants Sample.nudgedOnce .empty))).store.row
        ⟨1⟩).map (Tick.markNoShow.selects Sample.rules)) = some false := by decide +kernel
  rw [found, Option.map_some, selects] at refused
  cases refused

end SlotBooking
