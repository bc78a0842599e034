import SlotBooking.Shop.SweepProgress

/-! A sweep which nothing interrupts leaves nothing to do: a second one with the same cutoffs finds
no row. What a tick has done is not undone by a later one, and only the nudge tick, which is still
to come then, may have to do with a ticket which has just become Overdue. -/
namespace SlotBooking

section
variable (u : Unicode) (instants : InstantText) (rules : SweepRules)

def Sweep.turn (sweep : Sweep) (turn : Ports × Channel) : Sweep :=
  sweep.proceed u instants rules turn.1 turn.2

/-- Where an action is dispatched its ticket can be loaded, the event id is new, and the clock does
not read a time before the cutoff of the nudges. -/
def Smooth (sweep : Sweep) (turn : Ports × Channel) : Prop :=
  ∀ tick id pending, sweep.pending = (tick, id) :: pending →
    (∃ loaded, Durable.load u sweep.store id = .ok loaded) ∧
      turn.1.newTicketEventId 0 ∉ sweep.store.ticketEvents.map EventRow.id ∧
      rules.earlier (turn.1.nowInstant 0) rules.nudgeCutoff = false

end

/-- What the ticks which have had their turn would select is pending, and nothing else is. After
the first tick the nudge tick is still to come. -/
structure Sweep.Settling (rules : SweepRules) (sweep : Sweep) : Prop where
  sound : sweep.Sound rules
  due : ∀ p ∈ sweep.pending, p.2 ∈ p.1.selected rules sweep.store
  done : ∀ tick, tick ∉ sweep.ticks → ∀ id ∈ tick.selected rules sweep.store,
    (tick, id) ∈ sweep.pending
  opens : ∀ p ∈ sweep.pending, p.1 = .moveToOverdue → Tick.nudge ∈ sweep.ticks
  order : sweep.ticks <:+ [.moveToOverdue, .nudge, .markNoShow, .lapseAppointment]

section
variable {u : Unicode} {instants : InstantText} {rules : SweepRules} {tick : Tick} {id : TicketId}
  {s : DurableStore} {ports : Ports} {channel : Channel}

/-- The actions of a sweep make no ticket due, except that one which becomes Overdue is to be
nudged. -/
theorem due_of_applies {reads : Reads} {loaded : LoadedAggregate} {result : ApplyResult}
    (applies : Applies reads ports (tick.useCase id channel) loaded result)
    (late : rules.earlier (ports.nowInstant 0) rules.nudgeCutoff = false) {next : Tick}
    (due : next.due rules result.ticket = true) : tick = .moveToOverdue ∧ next = .nudge := by
  cases next with
  | moveToOverdue =>
    obtain ⟨call, called, _⟩ := due_moveToOverdue.mp due
    cases tick with
    | lapseAppointment =>
      cases applies with
      | lapseAppointment _ _ _ _ _ _ applied =>
        obtain ⟨_, _, rfl⟩ := applyLapseAppointment_eq_some applied
        cases called
    | _ =>
      cases applies
      cases called
  | nudge =>
    obtain ⟨call, stamp, overdue, _, dated⟩ := due_nudge.mp due
    cases tick with
    | moveToOverdue => exact ⟨rfl, rfl⟩
    | nudge =>
      cases applies
      cases overdue
      cases late.symm.trans (dated _ rfl)
    | markNoShow =>
      cases applies
      cases overdue
    | lapseAppointment =>
      cases applies with
      | lapseAppointment _ _ _ _ _ _ applied =>
        obtain ⟨_, _, rfl⟩ := applyLapseAppointment_eq_some applied
        cases overdue
  | markNoShow =>
    obtain ⟨call, stamp, last, overdue, _, nudged, early⟩ := due_markNoShow.mp due
    cases tick with
    | moveToOverdue =>
      cases applies
      cases overdue
      cases nudged
    | nudge =>
      cases applies
      cases overdue
      cases nudged
      cases late.symm.trans early
    | markNoShow =>
      cases applies
      cases overdue
    | lapseAppointment =>
      cases applies with
      | lapseAppointment _ _ _ _ _ _ applied =>
        obtain ⟨_, _, rfl⟩ := applyLapseAppointment_eq_some applied
        cases overdue
  | lapseAppointment =>
    obtain ⟨waiting, _⟩ := due_lapseAppointment.mp due
    cases tick with
    | lapseAppointment =>
      cases applies with
      | lapseAppointment _ _ _ _ _ _ applied =>
        obtain ⟨_, _, rfl⟩ := applyLapseAppointment_eq_some applied
        cases waiting
    | _ =>
      cases applies
      cases waiting

theorem acted_columned (kept : s.Kept) (columned : s.Columned) :
    (dispatched u instants s (ports, tick.action id channel)).Columned :=
  columned_steps (dispatch_steps kept) kept columned

theorem selected_present (kept : s.Kept) (columned : s.Columned)
    (chosen : id ∈ tick.selected rules s) : ∃ t revision,
      (s.aggregate id).latest = some (t, revision) ∧ tick.due rules t = true := by
  obtain ⟨r, mem, own, _⟩ := mem_selected.mp chosen
  have found : s.row id = some r := own ▸ Table.find_of_mem kept.tidy.ticketsKeyed mem
  have latest : (s.aggregate id).latest = some (r.payload.json, r.revision) := by
    rw [DurableStore.aggregate, found]
    rfl
  exact ⟨_, _, latest, (mem_selected_iff kept columned latest).mp chosen⟩

/-- An action changes what is selected about its own ticket only. -/
theorem selected_elsewhere (kept : s.Kept) (columned : s.Columned) {other : TicketId} {next : Tick}
    (different : other ≠ id) :
    other ∈ next.selected rules (dispatched u instants s (ports, tick.action id channel)) ↔
      other ∈ next.selected rules s := by
  have kept' : (dispatched u instants s (ports, tick.action id channel)).Kept :=
    dispatched_kept kept _
  have columned' : (dispatched u instants s (ports, tick.action id channel)).Columned :=
    acted_columned kept columned
  have same := @tick_untouched tick u instants s ports id channel kept other different
  constructor
  · intro chosen
    obtain ⟨t, revision, present, due⟩ := selected_present kept' columned' chosen
    exact (mem_selected_iff kept columned (same ▸ present)).mpr due
  · intro chosen
    obtain ⟨t, revision, present, due⟩ := selected_present kept columned chosen
    exact (mem_selected_iff kept' columned' (same.symm ▸ present)).mpr due

/-- After its action a ticket is selected by the nudge tick only, and only if it has become
Overdue. -/
theorem selected_after (kept : s.Kept) (columned : s.Columned)
    (chosen : id ∈ tick.selected rules s) (loads : ∃ loaded, Durable.load u s id = .ok loaded)
    (fresh : ports.newTicketEventId 0 ∉ s.ticketEvents.map EventRow.id)
    (late : rules.earlier (ports.nowInstant 0) rules.nudgeCutoff = false) {next : Tick}
    (again : id ∈ next.selected rules (dispatched u instants s (ports, tick.action id channel))) :
    tick = .moveToOverdue ∧ next = .nudge := by
  obtain ⟨loaded, read⟩ := loads
  have due : tick.due rules loaded.state = true := by
    obtain ⟨t, revision, present, due⟩ := selected_present kept columned chosen
    obtain ⟨row, found, outline, _⟩ := kept.row_of_load read
    have latest : (s.aggregate id).latest = some (row.payload.json, row.revision) := by
      rw [DurableStore.aggregate, found]
      rfl
    cases present.symm.trans latest
    rwa [← due_of_outline outline]
  obtain ⟨result, applies, moved⟩ :=
    @tick_commits u instants s ports id channel rules tick loaded kept read due fresh
  have own : loaded.state.id = id := load_id kept.tidy (kept.outlined id) read
  obtain ⟨_, latest⟩ := (@Moved.advanced _ _ _ _ _ loaded.state _ _ moved kept own).latest
  obtain ⟨t, revision, present, chosen'⟩ :=
    selected_present (moved.kept kept) (acted_columned kept columned) again
  cases latest.symm.trans present
  exact due_of_applies applies late chosen'

/-! ### The sweep -/

theorem Sweep.Settling.start (kept : s.Kept) (columned : s.Columned) :
    (Sweep.start s).Settling rules where
  sound := .start kept columned
  due := by simp [Sweep.start]
  done := by
    intro tick absent
    cases tick <;> simp [Sweep.start] at absent
  opens := by simp [Sweep.start]
  order := List.suffix_refl _

theorem Sweep.Settling.turn {sweep : Sweep} (settling : sweep.Settling rules)
    {turn : Ports × Channel} (smooth : Smooth u rules sweep turn) :
    (sweep.turn u instants rules turn).Settling rules := by
  have sound := @Sweep.Sound.proceed u instants rules sweep settling.sound turn.1 turn.2
  obtain ⟨s, ticks, pending⟩ := sweep
  cases pending with
  | nil =>
    cases ticks with
    | nil => exact settling
    | cons tick ticks =>
      refine ⟨sound, ?_, ?_, ?_, (List.suffix_cons tick ticks).trans settling.order⟩
      · intro p mem
        obtain ⟨id, chosen, rfl⟩ := List.mem_map.mp mem
        exact chosen
      · intro other absent id chosen
        by_cases same : other = tick
        · subst same
          exact List.mem_map_of_mem chosen
        · have before : other ∉ tick :: ticks := by
            rw [List.mem_cons, not_or]
            exact ⟨same, absent⟩
          cases settling.done other before id chosen
      · intro p mem first
        obtain ⟨id, _, rfl⟩ := List.mem_map.mp mem
        obtain rfl : tick = .moveToOverdue := first
        rcases List.suffix_cons_iff.mp settling.order with whole | rest
        · cases whole
          exact List.mem_cons_self
        · have mem : Tick.moveToOverdue ∈ [Tick.nudge, .markNoShow, .lapseAppointment] :=
            rest.subset List.mem_cons_self
          simp at mem
  | cons head pending =>
    obtain ⟨tick, id⟩ := head
    obtain ⟨loads, fresh, late⟩ := smooth tick id pending rfl
    obtain ⟨absent, distinct⟩ := List.nodup_cons.mp settling.sound.distinct
    have kept := settling.sound.kept
    have columned := settling.sound.columned
    have chosen : id ∈ tick.selected rules s := settling.due (tick, id) List.mem_cons_self
    refine ⟨sound, ?_, ?_, ?_, settling.order⟩
    · intro p mem
      have inRest : p.2 ∈ pending.map Prod.snd := List.mem_map_of_mem mem
      have different : p.2 ≠ id := fun same => absent (same ▸ inRest)
      exact (selected_elsewhere kept columned different).mpr
        (settling.due p (List.mem_cons_of_mem _ mem))
    · intro next gone other again
      by_cases same : other = id
      · subst same
        obtain ⟨first, rfl⟩ := selected_after kept columned chosen loads fresh late again
        exact absurd (settling.opens _ List.mem_cons_self first) gone
      · have before := (selected_elsewhere kept columned same).mp again
        rcases List.mem_cons.mp (settling.done next gone other before) with here | rest
        · cases here
          exact absurd rfl same
        · exact rest
    · exact fun p mem => settling.opens p (List.mem_cons_of_mem _ mem)

/-- Where no tick selects a row a sweep changes nothing. -/
theorem idle_run (idle : ∀ tick : Tick, tick.selected rules s = []) (ticks : List Tick)
    (turns : List (Ports × Channel)) :
    ((⟨s, ticks, []⟩ : Sweep).run u instants rules turns).store = s := by
  induction turns generalizing ticks with
  | nil => rfl
  | cons turn turns ih =>
    rw [run_cons]
    cases ticks with
    | nil => exact ih []
    | cons tick ticks =>
      simp only [Sweep.proceed, idle tick, List.map_nil]
      exact ih ticks

end

/-- A sweep over the store of any run which comes to its end with no request in between and with
each of its dispatches smooth, leaves a store in which no tick selects a row: a second sweep with
the same cutoffs changes nothing, however often it has its turn. -/
theorem sweep_settles (u : Unicode) (instants : InstantText) (rules : SweepRules)
    (calls : List (Ports × QueueAction)) (turns : List (Ports × Channel)) (s' : DurableStore)
    (smooth : Trace.Throughout (Sweep.turn u instants rules) (Smooth u rules) turns
      (.start (runDispatches u instants calls .empty)))
    (ended : (Sweep.start (runDispatches u instants calls .empty)).run u instants rules turns =
      ⟨s', [], []⟩) :
    (∀ tick : Tick, tick.selected rules s' = []) ∧
      ∀ again, ((Sweep.start s').run u instants rules again).store = s' := by
  have reached := @runDispatches_steps u instants .empty DurableStore.kept_empty calls
  have start : (Sweep.start (runDispatches u instants calls .empty)).Settling rules :=
    .start (reached.kept DurableStore.kept_empty)
      (columned_steps reached DurableStore.kept_empty columned_empty)
  have settled : ((Sweep.start (runDispatches u instants calls .empty)).run u instants rules
      turns).Settling rules :=
    (smooth.always (fun _ _ settling smooth => settling.turn smooth) start).after
  rw [ended] at settled
  have idle : ∀ tick : Tick, tick.selected rules s' = [] := by
    intro tick
    refine List.eq_nil_iff_forall_not_mem.mpr (fun id chosen => ?_)
    cases settled.done tick List.not_mem_nil id chosen
  exact ⟨idle, fun again => idle_run idle _ again⟩

namespace Sample

/-- Issued and called, both in the first millisecond. -/
def firstCalls : List (Ports × QueueAction) := nudgedOnce.take 2

/-- One ticket becomes Overdue and is nudged. -/
def wholeSweep : List (Ports × Channel) :=
  [(laterPorts 3, .ws), (laterPorts 3, .ws), (laterPorts 4, .ws), (laterPorts 4, .ws),
    (laterPorts 5, .ws), (laterPorts 6, .ws)]

def afterCalls : Sweep := .start (runDispatches unicode noInstants firstCalls .empty)

def swept : Sweep := afterCalls.run unicode noInstants rules wholeSweep

theorem smooth_of_head {sweep : Sweep} {turn : Ports × Channel}
    (checked : sweep.pending.head?.all (fun p =>
      (Durable.load unicode sweep.store p.2).toOption.isSome &&
        (turn.1.newTicketEventId 0 ∉ sweep.store.ticketEvents.map EventRow.id) &&
        !rules.earlier (turn.1.nowInstant 0) rules.nudgeCutoff) = true) :
    Smooth unicode rules sweep turn := by
  intro tick id pending first
  simp only [first, List.head?_cons, Option.all_some, Bool.and_eq_true, decide_eq_true_eq,
    Bool.not_eq_true'] at checked
  obtain ⟨⟨loads, fresh⟩, late⟩ := checked
  refine ⟨?_, fresh, late⟩
  cases read : Durable.load unicode sweep.store id with
  | error e => simp [read, Except.toOption] at loads
  | ok loaded => exact ⟨loaded, rfl⟩

end Sample

theorem sweep_settles_sample :
    (∀ tick : Tick, tick.selected Sample.rules Sample.swept.store = []) ∧
      ∀ again, ((Sweep.start Sample.swept.store).run Sample.unicode Sample.noInstants Sample.rules
        again).store = Sample.swept.store := by
  have ticks : Sample.swept.ticks = [] := by decide +kernel
  have pending : Sample.swept.pending = [] := by decide +kernel
  have ended : Sample.swept = ⟨Sample.swept.store, [], []⟩ := by
    calc Sample.swept = _ := Sweep.eta
      _ = _ := by rw [ticks, pending]
  refine sweep_settles Sample.unicode Sample.noInstants Sample.rules Sample.firstCalls
    Sample.wholeSweep Sample.swept.store ⟨?_, ?_, ?_, ?_, ?_, ?_, trivial⟩ ended
  all_goals exact Sample.smooth_of_head (by decide +kernel)

end SlotBooking
