import SlotBooking.Shop.SweepRaces

/-! The two ticks for Overdue tickets, one after the other in one sweep. Where the interval has
passed one of them takes the ticket up, except that a ticket which was never nudged is no
candidate for a no-show: with no nudges to give it stays Overdue. -/
namespace SlotBooking

/-- Never nudged, or last nudged longer ago than the interval. -/
def AlarmConfig.Awaits (config : AlarmConfig) (nowMs : Int) (r : TicketRow) : Prop :=
  ∀ last, r.lastNudgedAt = some last →
    last.epochNs + config.nudgeInterval * nsPerMs < nowMs * nsPerMs

/-- An Overdue row between the tickets which a sweep is to nudge and those which it is to close:
it is among one of them where it awaits the sweep, and otherwise among neither. -/
def AlarmConfig.Attends (config : AlarmConfig) (nowMs : Int) (nudged closed : List TicketId)
    (r : TicketRow) : Prop :=
  (config.Awaits nowMs r → (r.id ∈ nudged ∧ r.id ∉ closed) ∨ (r.id ∉ nudged ∧ r.id ∈ closed)) ∧
    (¬ config.Awaits nowMs r → r.id ∉ nudged ∧ r.id ∉ closed)

/-- Between the two lists by counter and time alone. -/
theorem attends_iff {config : AlarmConfig} {nowMs : Int} {nudged closed : List TicketId}
    {r : TicketRow} {count : Nat}
    (toNudge : r.id ∈ nudged ↔ (count : Int) < config.maxNudges ∧ config.Awaits nowMs r)
    (toClose : r.id ∈ closed ↔
      r.id ∉ nudged ∧ config.maxNudges ≤ count ∧ r.lastNudgedAt ≠ none ∧ config.Awaits nowMs r)
    (dated : r.lastNudgedAt = none → count = 0) :
    config.Attends nowMs nudged closed r ↔ 1 ≤ config.maxNudges ∨ r.lastNudgedAt ≠ none := by
  constructor
  · intro attends
    by_contra neither
    obtain ⟨noNudges, never⟩ := not_or.mp neither
    have never : r.lastNudgedAt = none := not_not.mp never
    have awaits : config.Awaits nowMs r := by
      intro last dated
      cases never.symm.trans dated
    rcases attends.1 awaits with ⟨one, _⟩ | ⟨_, one⟩
    · have below := (toNudge.mp one).1
      omega
    · exact (toClose.mp one).2.2.1 never
  · intro possible
    constructor
    · intro awaits
      by_cases below : (count : Int) < config.maxNudges
      · have one := toNudge.mpr ⟨below, awaits⟩
        exact .inl ⟨one, fun other => (toClose.mp other).1 one⟩
      · have none_ : r.id ∉ nudged := fun one => below (toNudge.mp one).1
        refine .inr ⟨none_, toClose.mpr ⟨none_, Int.not_lt.mp below, ?_, awaits⟩⟩
        rcases possible with given | before
        · intro never
          have zero := dated never
          omega
        · exact before
    · intro patient
      exact ⟨fun one => patient (toNudge.mp one).2, fun one => patient (toClose.mp one).2.2.2⟩

/-- A ticket without the time of a nudge has not been nudged. -/
def Ticket.NudgesDated (t : Ticket) : Prop :=
  ∀ call stamp, t.variant = .overdue call stamp → stamp.lastNudgedAt = none → stamp.nudgeCount = 0

theorem Ticket.nudgesDated_of_outline {t q : Ticket} (same : t.outline = q.outline)
    (dated : t.NudgesDated) : q.NudgesDated := by
  have variant : t.variant = q.variant := congrArg (fun t => t.variant) same
  rwa [NudgesDated, variant] at dated

theorem Move.nudgesDated {t : Ticket} {result : ApplyResult} (move : Move t result)
    (dated : t.NudgesDated) : result.ticket.NudgesDated := by
  cases move with
  | lapseAppointment t time eventId result applied =>
    obtain ⟨_, _, rfl⟩ := applyLapseAppointment_eq_some applied
    rintro call stamp ⟨⟩
  | reschedule t active lane target time eventId actor result applied =>
    obtain ⟨_, _, rfl⟩ := applyReschedule_eq_some applied
    exact dated
  | moveToOverdue t stamp =>
    rintro call stamp ⟨⟩ _
    rfl
  | nudge t stamp overdue =>
    rintro call stamp ⟨⟩ ⟨⟩
  | _ => rintro call stamp ⟨⟩

section
variable {u : Unicode} {instants : InstantText} {rules : SweepRules} {s : DurableStore}
  {sweep : Sweep} {turns : List (Ports × Channel)} {id : TicketId}

theorem mem_selected_iff {tick : Tick} (kept : s.Kept) (columned : s.Columned) {t : Ticket}
    {revision : Nat} (present : (s.aggregate id).latest = some (t, revision)) :
    id ∈ tick.selected rules s ↔ tick.due rules t = true := by
  obtain ⟨row, found, rfl⟩ := row_of_latest present
  obtain ⟨inTable, own⟩ := Table.find_some found
  rw [mem_selected, ← selects_columned (columned row inTable)]
  constructor
  · rintro ⟨r, mem, same, selects⟩
    cases (Table.find_of_mem kept.tidy.ticketsKeyed mem).symm.trans (same ▸ found)
    exact selects
  · exact fun selects => ⟨row, inTable, own, selects⟩

/-! ### The nudge tick -/

theorem proceed_ticks (ports : Ports) (channel : Channel) :
    (sweep.proceed u instants rules ports channel).ticks.length ≤ sweep.ticks.length := by
  obtain ⟨s, ticks, pending⟩ := sweep
  cases pending with
  | nil =>
    cases ticks with
    | nil => exact Nat.le_refl _
    | cons tick ticks => exact Nat.le_succ _
  | cons head pending => exact Nat.le_refl _

theorem Sweep.eta : sweep = ⟨sweep.store, sweep.ticks, sweep.pending⟩ := rfl

theorem run_cons (turn : Ports × Channel) : sweep.run u instants rules (turn :: turns) =
    (sweep.proceed u instants rules turn.1 turn.2).run u instants rules turns := rfl

theorem run_selects {tick : Tick} {ticks : List Tick} {turn : Ports × Channel} :
    (⟨s, tick :: ticks, []⟩ : Sweep).run u instants rules [turn] =
      ⟨s, ticks, (tick.selected rules s).map (fun id => (tick, id))⟩ := rfl

theorem run_ticks : (sweep.run u instants rules turns).ticks.length ≤ sweep.ticks.length := by
  induction turns generalizing sweep with
  | nil => exact Nat.le_refl _
  | cons turn turns ih => exact ih.trans (proceed_ticks turn.1 turn.2)

/-- The ticket, if there, is none the no-show tick would select. -/
def DurableStore.Safe (rules : SweepRules) (s : DurableStore) (id : TicketId) : Prop :=
  ∀ t revision, (s.aggregate id).latest = some (t, revision) →
    Tick.markNoShow.due rules t = false

/-- What the nudge tick selects has a nudge left, which the no-show tick does not leave. -/
theorem DurableStore.safe_of_due {t : Ticket} {revision : Nat}
    (present : (s.aggregate id).latest = some (t, revision))
    (due : Tick.nudge.due rules t = true) : s.Safe rules id := by
  intro t' revision' present'
  cases present.symm.trans present'
  obtain ⟨_, _, overdue, left_, _⟩ := due_nudge.mp due
  rw [Bool.eq_false_iff]
  intro closing
  obtain ⟨_, _, _, again, used, _⟩ := due_markNoShow.mp closing
  cases overdue.symm.trans again
  exact absurd left_ (Int.not_lt.mpr used)

theorem DurableStore.Safe.unselected (safe : s.Safe rules id) (kept : s.Kept)
    (columned : s.Columned) : id ∉ Tick.markNoShow.selected rules s := by
  intro mem
  obtain ⟨row, inTable, own, selects⟩ := mem_selected.mp mem
  have found : s.row id = some row := own ▸ Table.find_of_mem kept.tidy.ticketsKeyed inTable
  have latest : (s.aggregate id).latest = some (row.payload.json, row.revision) := by
    rw [DurableStore.aggregate, found]
    rfl
  have closing := (mem_selected_iff kept columned latest).mp mem
  rw [safe _ _ latest] at closing
  cases closing

/-- A nudge is stamped after the cutoff, so the no-show tick does not see it. -/
theorem DurableStore.Safe.nudge (kept : s.Kept) (safe : s.Safe rules id) {ports : Ports}
    (fresh : rules.earlier (ports.nowInstant 0) rules.nudgeCutoff = false) (other : TicketId)
    (channel : Channel) :
    (dispatched u instants s (ports, Tick.nudge.action other channel)).Safe rules id := by
  by_cases mine : id = other
  · subst mine
    rcases @tick_commit .nudge u instants s ports id channel kept with
      same | ⟨loaded, result, own, applies, moved⟩
    · rw [same]
      exact safe
    · intro t revision present
      obtain ⟨_, latest⟩ := (@Moved.advanced _ _ _ _ _ loaded.state _ _ moved kept own).latest
      cases latest.symm.trans present
      cases applies with
      | nudge =>
        rw [Bool.eq_false_iff]
        intro due
        obtain ⟨_, _, last, overdue, _, nudged, early⟩ := due_markNoShow.mp due
        cases overdue
        cases nudged
        rw [fresh] at early
        cases early
  · unfold Safe
    rw [tick_untouched kept mine]
    exact safe

/-- While the sweep is busy with nudges it changes no other ticket and brings none into the reach
of the no-show tick. -/
theorem run_nudging (sound : sweep.Sound rules) (nudging : ∀ p ∈ sweep.pending, p.1 = .nudge)
    (busy : (sweep.run u instants rules turns).ticks.length = sweep.ticks.length)
    (fresh : ∀ turn ∈ turns, rules.earlier (turn.1.nowInstant 0) rules.nudgeCutoff = false) :
    (id ∉ sweep.pending.map Prod.snd →
        (sweep.run u instants rules turns).store.aggregate id = sweep.store.aggregate id) ∧
      (sweep.store.Safe rules id → (sweep.run u instants rules turns).store.Safe rules id) := by
  induction turns generalizing sweep with
  | nil => exact ⟨fun _ => rfl, fun safe => safe⟩
  | cons turn turns ih =>
    have next := @Sweep.Sound.proceed u instants rules sweep sound turn.1 turn.2
    have later : ∀ t ∈ turns, rules.earlier (t.1.nowInstant 0) rules.nudgeCutoff = false :=
      fun t mem => fresh t (List.mem_cons_of_mem turn mem)
    have shrunk := @run_ticks u instants rules (sweep.proceed u instants rules turn.1 turn.2) turns
    rw [run_cons] at busy ⊢
    obtain ⟨s, ticks, pending⟩ := sweep
    cases pending with
    | nil =>
      cases ticks with
      | nil => exact ih next nudging busy later
      | cons tick ticks =>
        rw [busy] at shrunk
        exact absurd shrunk (Nat.not_succ_le_self _)
    | cons head pending =>
      obtain ⟨tick, other⟩ := head
      obtain rfl : tick = .nudge := nudging (tick, other) List.mem_cons_self
      have rest : ∀ p ∈ pending, p.1 = .nudge :=
        fun p mem => nudging p (List.mem_cons_of_mem _ mem)
      obtain ⟨same, safe⟩ := ih next rest busy later
      constructor
      · intro absent
        rw [List.map_cons, List.mem_cons, not_or] at absent
        exact (same absent.2).trans (tick_untouched sound.kept absent.1)
      · intro before
        exact safe (before.nudge sound.kept (fresh turn List.mem_cons_self) other turn.2)

/-- What the no-show tick selects after the nudge tick, by the store before both. -/
theorem mem_closed_iff (kept : s.Kept) (columned : s.Columned) {s' : DurableStore}
    {ticks : List Tick} (nudged : (⟨s, .nudge :: ticks, []⟩ : Sweep).run u instants rules turns =
      ⟨s', ticks, []⟩)
    (fresh : ∀ turn ∈ turns, rules.earlier (turn.1.nowInstant 0) rules.nudgeCutoff = false)
    {t : Ticket} {revision : Nat} (present : (s.aggregate id).latest = some (t, revision)) :
    id ∈ Tick.markNoShow.selected rules s' ↔
      Tick.nudge.due rules t = false ∧ Tick.markNoShow.due rules t = true := by
  have start : (⟨s, .nudge :: ticks, []⟩ : Sweep).Sound rules :=
    ⟨kept, columned, List.nodup_nil, by simp⟩
  have ended := @Sweep.Sound.run u instants rules _ turns start
  rw [nudged] at ended
  cases turns with
  | nil => exact absurd (congrArg (fun sweep => sweep.ticks.length) nudged) (Nat.succ_ne_self _)
  | cons turn turns =>
    rw [run_cons] at nudged
    have pass := @run_nudging u instants rules _ turns id
      (@Sweep.Sound.proceed u instants rules _ start turn.1 turn.2) (by simp [Sweep.proceed])
      (congrArg (fun sweep => sweep.ticks.length) nudged)
      (fun t mem => fresh t (List.mem_cons_of_mem turn mem))
    rw [nudged] at pass
    obtain ⟨same, safe⟩ := pass
    by_cases due : Tick.nudge.due rules t = true
    · refine iff_of_false ?_ (fun both => Bool.false_ne_true (both.1.symm.trans due))
      have before : s.Safe rules id := DurableStore.safe_of_due present due
      exact (safe before).unselected ended.kept ended.columned
    · have absent : id ∉ Tick.nudge.selected rules s :=
        fun mem => due ((mem_selected_iff kept columned present).mp mem)
      have unchanged : s'.aggregate id = s.aggregate id := by
        refine same ?_
        simpa only [Sweep.proceed, List.map_map, Function.comp_def, List.map_id'] using absent
      rw [← unchanged] at present
      rw [mem_selected_iff ended.kept ended.columned present]
      exact ⟨fun closing => ⟨Bool.eq_false_iff.mpr due, closing⟩, And.right⟩

end

/-! ### What is due, by the row -/

section
variable {config : AlarmConfig} {nowMs : Int} {rules : SweepRules} {r : TicketRow}
  {call : CallStamp} {stamp : OverdueStamp}

theorem earlier_iff (read : config.rules Instant.before nowMs = some rules) (t : Instant) :
    rules.earlier t rules.nudgeCutoff = true ↔
      t.epochNs + config.nudgeInterval * nsPerMs < nowMs * nsPerMs := by
  rw [AlarmConfig.rules_eq_some read]
  change t.before (nowMs - config.nudgeInterval) = true ↔ _
  rw [Instant.before, decide_eq_true_iff, Int.sub_mul]
  omega

theorem nudge_due_iff (read : config.rules Instant.before nowMs = some rules)
    (variant : r.payload.json.variant = .overdue call stamp)
    (column : r.lastNudgedAt = stamp.lastNudgedAt) :
    Tick.nudge.due rules r.payload.json = true ↔
      (stamp.nudgeCount : Int) < config.maxNudges ∧ config.Awaits nowMs r := by
  have limit : rules.maxNudges = config.maxNudges := by rw [AlarmConfig.rules_eq_some read]
  rw [due_nudge, AlarmConfig.Awaits, column, limit]
  simp only [earlier_iff read]
  constructor
  · rintro ⟨_, _, same, both⟩
    cases variant.symm.trans same
    exact both
  · exact fun both => ⟨call, stamp, variant, both⟩

theorem noShow_due_iff (read : config.rules Instant.before nowMs = some rules)
    (variant : r.payload.json.variant = .overdue call stamp)
    (column : r.lastNudgedAt = stamp.lastNudgedAt) :
    Tick.markNoShow.due rules r.payload.json = true ↔
      config.maxNudges ≤ stamp.nudgeCount ∧ r.lastNudgedAt ≠ none ∧ config.Awaits nowMs r := by
  have limit : rules.maxNudges = config.maxNudges := by rw [AlarmConfig.rules_eq_some read]
  rw [due_markNoShow, AlarmConfig.Awaits, column, limit]
  simp only [earlier_iff read]
  constructor
  · rintro ⟨_, _, last, same, used, dated, before⟩
    cases variant.symm.trans same
    refine ⟨used, fun never => ?_, fun last' dated' => ?_⟩
    · cases never.symm.trans dated
    · cases dated.symm.trans dated'
      exact before
  · rintro ⟨used, once, awaits⟩
    obtain ⟨last, dated⟩ := Option.ne_none_iff_exists'.mp once
    exact ⟨call, stamp, last, variant, used, dated, awaits last dated⟩

end

/-- In a sweep over the store of any run, an Overdue ticket is taken up when it should be, and
only then, if and only if there are nudges to give or it has been nudged before. -/
theorem overdue_attended_iff (u : Unicode) (instants : InstantText)
    (calls : List (Ports × QueueAction)) (config : AlarmConfig)
    (interval : 0 ≤ config.nudgeInterval) (nowMs : Int) (rules : SweepRules)
    (read : config.rules Instant.before nowMs = some rules) (turns : List (Ports × Channel))
    (timely : ∀ turn ∈ turns, nowMs * nsPerMs ≤ (turn.1.nowInstant 0).epochNs) (s s' : DurableStore)
    (reached : s = runDispatches u instants calls .empty)
    (nudged : (⟨s, [.nudge, .markNoShow, .lapseAppointment], []⟩ : Sweep).run u instants rules
      turns = ⟨s', [.markNoShow, .lapseAppointment], []⟩)
    (r : TicketRow) (mem : r ∈ s.tickets) (overdue : r.state = .overdue) :
    config.Attends nowMs (Tick.nudge.selected rules s) (Tick.markNoShow.selected rules s') r ↔
      1 ≤ config.maxNudges ∨ r.lastNudgedAt ≠ none := by
  have steps := @runDispatches_steps u instants .empty DurableStore.kept_empty calls
  rw [← reached] at steps
  have kept : s.Kept := steps.kept DurableStore.kept_empty
  have columned : s.Columned := columned_steps steps DurableStore.kept_empty columned_empty
  have dated : r.payload.json.NudgesDated := by
    refine payloads_steps (fun same => Ticket.nudgesDated_of_outline same)
      (fun move => Move.nudgesDated move) ?_ steps DurableStore.kept_empty ?_ r mem
    · rintro args call stamp ⟨⟩
    · simp [DurableStore.empty]
  have state : r.payload.json.state = .overdue := (kept.tidy.rows r mem).2.symm.trans overdue
  obtain ⟨call, stamp, variant⟩ := overdue_of_state state
  have column : r.lastNudgedAt = stamp.lastNudgedAt := by
    rw [(columned r mem).lastNudgedAt, variant]
    rfl
  have present : (s.aggregate r.id).latest = some (r.payload.json, r.revision) := by
    have found : s.row r.id = some r := Table.find_of_mem kept.tidy.ticketsKeyed mem
    rw [DurableStore.aggregate, found]
    rfl
  have fresh : ∀ turn ∈ turns,
      rules.earlier (turn.1.nowInstant 0) rules.nudgeCutoff = false := by
    intro turn inTurns
    rw [Bool.eq_false_iff, Ne, earlier_iff read]
    have late := timely turn inTurns
    have nonneg : 0 ≤ config.nudgeInterval * nsPerMs := Int.mul_nonneg interval (by decide)
    omega
  have toNudge := @mem_selected_iff rules s r.id .nudge kept columned _ _ present
  refine attends_iff (toNudge.trans (nudge_due_iff read variant column)) ?_ ?_
  · rw [mem_closed_iff kept columned nudged fresh present, toNudge, Bool.eq_false_iff,
      noShow_due_iff read variant column]
  · rw [column]
    exact dated call stamp variant

namespace Sample

def overdue : List (Ports × QueueAction) := nudgedOnce.take 3

def overdueStore : DurableStore := runDispatches unicode noInstants overdue .empty

/-- After the nudge tick of a sweep at the second millisecond. -/
def overdueNudged : Sweep :=
  (⟨overdueStore, [.nudge, .markNoShow, .lapseAppointment], []⟩ : Sweep).run unicode noInstants
    rules [(laterPorts 4, .ws), (laterPorts 4, .ws)]

/-- No customer is to be nudged. -/
def noNudges : AlarmConfig := ⟨1, 1, 0, 1⟩

end Sample

theorem overdue_attended_iff_sample : ∃ r ∈ Sample.overdueStore.tickets,
    Sample.config.Attends 2 (Tick.nudge.selected Sample.rules Sample.overdueStore)
      (Tick.markNoShow.selected Sample.rules Sample.overdueNudged.store) r := by
  have row : ∃ r ∈ Sample.overdueStore.tickets, r.state = .overdue := by decide +kernel
  obtain ⟨r, mem, overdue⟩ := row
  have timely : ∀ turn ∈ [(Sample.laterPorts 4, Channel.ws), (Sample.laterPorts 4, .ws)],
      2 * nsPerMs ≤ (turn.1.nowInstant 0).epochNs := by simp [Sample.laterPorts]
  have ticks : Sample.overdueNudged.ticks = [.markNoShow, .lapseAppointment] := by decide +kernel
  have pending : Sample.overdueNudged.pending = [] := by decide +kernel
  have nudged : Sample.overdueNudged =
      ⟨Sample.overdueNudged.store, [.markNoShow, .lapseAppointment], []⟩ := by
    calc Sample.overdueNudged = _ := Sweep.eta
      _ = _ := by rw [ticks, pending]
  refine ⟨r, mem, ?_⟩
  exact (overdue_attended_iff Sample.unicode Sample.noInstants Sample.overdue Sample.config
    (by decide) 2 Sample.rules rfl _ timely Sample.overdueStore _ rfl nudged r mem overdue).mpr
    (.inl (by decide))

/-- With no nudges to give, neither tick selects the ticket: the nudge tick finds nothing, so the
no-show tick follows on the same store. -/
theorem overdue_stuck_without_nudges :
    ∃ rules r, Sample.noNudges.rules Instant.before 2 = some rules ∧
      (⟨Sample.overdueStore, [.nudge, .markNoShow, .lapseAppointment], []⟩ : Sweep).run
          Sample.unicode Sample.noInstants rules [(Sample.laterPorts 4, .ws)] =
        ⟨Sample.overdueStore, [.markNoShow, .lapseAppointment], []⟩ ∧
      r ∈ Sample.overdueStore.tickets ∧ r.state = .overdue ∧
      ¬ Sample.noNudges.Attends 2 (Tick.nudge.selected rules Sample.overdueStore)
        (Tick.markNoShow.selected rules Sample.overdueStore) r := by
  have toNudge : Tick.nudge.selected ⟨0, 1, 1, 1, Instant.before⟩ Sample.overdueStore = [] := by
    decide +kernel
  have toClose :
      Tick.markNoShow.selected ⟨0, 1, 1, 1, Instant.before⟩ Sample.overdueStore = [] := by
    decide +kernel
  have row : ∃ r ∈ Sample.overdueStore.tickets, r.state = .overdue ∧ r.lastNudgedAt = none := by
    decide +kernel
  obtain ⟨r, mem, overdue, never⟩ := row
  refine ⟨⟨0, 1, 1, 1, Instant.before⟩, r, rfl, ?_, mem, overdue, ?_⟩
  · rw [run_selects, toNudge]
    rfl
  · rw [toNudge, toClose]
    intro attends
    have awaits : Sample.noNudges.Awaits 2 r := by
      intro last dated
      cases never.symm.trans dated
    rcases attends.1 awaits with ⟨one, _⟩ | ⟨_, one⟩
    · cases one
    · cases one

end SlotBooking
