import SlotBooking.Shop.AlarmArmed
import SlotBooking.Shop.NudgeProtocol

/-! The pushes of the nudges, over runs in which anything may happen between two of them. A push goes
where the holder of the ticket has asked for it; and where the log says that a nudge went by push,
somebody has been reached. -/
namespace SlotBooking

/-! ### What is pushed, and who has asked for it -/

namespace DurableObject

/-- The push which an event sends: for which ticket, to whom, and the answer. -/
def pushes (object : DurableObject) :
    ObjectEvent → Option (TicketId × PushSubscription × Option SendPushResult)
  | .proceed _ _ sent => object.sweep.bind (fun run => run.pending.head?.bind (fun p =>
    run.fanOut.bind (fun fanOut => fanOut.left.head?.map (fun subscription =>
      (p.2, subscription, sent)))))
  | _ => none

/-- A push for the ticket reaches somebody. -/
def delivers (ticketId : TicketId) (object : DurableObject) (event : ObjectEvent) : Bool :=
  (object.pushes event).any (fun push => push.1 = ticketId && push.2.2 = some .delivered)

/-- A registration for an active ticket, by who gives its handle. -/
def Registers (ticketId : TicketId) (subscription : PushSubscription) (object : DurableObject)
    (event : ObjectEvent) : Prop :=
  ∃ handle row, event = .registerPushSubscription ticketId handle subscription ∧
    object.store.row ticketId = some row ∧ row.state.isTerminal = false ∧
    row.answersTo handle = true

def Withdraws (ticketId : TicketId) (endpoint : String) (object : DurableObject)
    (event : ObjectEvent) : Prop :=
  ∃ handle row, event = .unregisterPushSubscription ticketId handle endpoint ∧
    object.store.row ticketId = some row ∧ row.answersTo handle = true

/-- The sweep is to nudge the ticket next, and has not begun with it. -/
def NudgesNext (ticketId : TicketId) (object : DurableObject) : Prop :=
  ∃ run pending, object.sweep = some run ∧ run.pending = (.nudge, ticketId) :: pending ∧
    run.fanOut = none

/-- The pushes under way are those of a nudge. -/
def Nudging (object : DurableObject) : Prop :=
  ∀ run fanOut, object.sweep = some run → run.fanOut = some fanOut →
    ∃ ticketId pending, run.pending = (.nudge, ticketId) :: pending

end DurableObject

section
variable (u : Unicode) (instants : InstantText) (scan : List TicketRow → List TicketRow)
  (earlier : Instant → Int → Bool) (config : AlarmConfig)

/-- Among these events is a registration by the holder, and no withdrawal after it. -/
def Asked (ticketId : TicketId) (subscription : PushSubscription) (events : List ObjectEvent) :
    Prop :=
  Trace.Since (DurableObject.serve u instants scan earlier config)
    (DurableObject.Registers ticketId subscription)
    (fun object event => ¬ object.Withdraws ticketId subscription.endpoint event) events .empty

/-- The same up to where the nudge of the ticket has begun. -/
def AskedBeforeNudge (ticketId : TicketId) (subscription : PushSubscription)
    (events : List ObjectEvent) : Prop :=
  ∃ front back, events = front ++ back ∧ Asked u instants scan earlier config ticketId subscription
      front ∧
    (front.foldl (DurableObject.serve u instants scan earlier config) .empty).NudgesNext ticketId

/-- What the past of an object says about its subscriptions: each row has been asked for, each push
which is still to come had been when its nudge began, and pushes are for nudges. -/
structure DurableObject.Attested (events : List ObjectEvent) (object : DurableObject) : Prop where
  rows : ∀ r ∈ object.shop.pushSubscriptions,
    Asked u instants scan earlier config r.ticketId r.toPushSubscription events
  left : ∀ run fanOut, object.sweep = some run → run.fanOut = some fanOut →
    ∃ ticketId pending, run.pending = (.nudge, ticketId) :: pending ∧
      ∀ subscription ∈ fanOut.left,
        AskedBeforeNudge u instants scan earlier config ticketId subscription events

end

section
variable {u : Unicode} {instants : InstantText} {scan : List TicketRow → List TicketRow}
  {earlier : Instant → Int → Bool} {config : AlarmConfig} {object : DurableObject}
  {events : List ObjectEvent} {event : ObjectEvent}

theorem AskedBeforeNudge.more {ticketId : TicketId} {subscription : PushSubscription}
    (asked : AskedBeforeNudge u instants scan earlier config ticketId subscription events) :
    AskedBeforeNudge u instants scan earlier config ticketId subscription (events ++ [event]) := by
  obtain ⟨front, back, rfl, since, next⟩ := asked
  exact ⟨front, back ++ [event], by simp, since, next⟩

theorem mem_register_eq {ticketId : TicketId} {subscription : PushSubscription}
    {rows : List PushRow} {r : PushRow}
    (mem : r ∈ PushStore.register ticketId subscription rows) :
    r ∈ rows ∨ r = ⟨subscription, ticketId⟩ := by
  rw [PushStore.register, Table.put] at mem
  split at mem
  · obtain ⟨old, inTable, same⟩ := List.mem_map.mp mem
    split at same
    · exact .inr same.symm
    · cases same
      exact .inl inTable
  · exact (List.mem_append.mp mem).imp_right List.mem_singleton.mp

theorem reaped_sublist {tickets : List (Encoded Ticket)} {rows : List PushRow} :
    (tickets.foldl reapTerminalSubscriptions rows).Sublist rows := by
  induction tickets generalizing rows with
  | nil => exact List.Sublist.refl _
  | cons t tickets ih =>
    refine List.Sublist.trans ih ?_
    rw [reapTerminalSubscriptions]
    split
    · exact List.filter_sublist
    · exact List.Sublist.refl _

theorem mem_registered {ticketId : TicketId} {handle : CustomerHandle}
    {subscription : PushSubscription} {r : PushRow} (mem : r ∈
      (object.shop.registerPushSubscription ticketId handle subscription).2.pushSubscriptions) :
    r ∈ object.shop.pushSubscriptions ∨ r = ⟨subscription, ticketId⟩ ∧
      object.Registers ticketId subscription
        (.registerPushSubscription ticketId handle subscription) := by
  unfold Shop.registerPushSubscription at mem
  split at mem
  · exact .inl mem
  · rename_i row found
    split at mem
    · exact .inl mem
    · rename_i active
      split at mem
      · exact .inl mem
      · rename_i answers
        refine (mem_register_eq mem).imp_right (fun same => ⟨same, handle, row, rfl, found, ?_, ?_⟩)
        · simpa using active
        · simpa using answers

theorem mem_unregistered {ticketId : TicketId} {handle : CustomerHandle} {endpoint : String}
    {r : PushRow} (mem : r ∈
      (object.shop.unregisterPushSubscription ticketId handle endpoint).2.pushSubscriptions) :
    r ∈ object.shop.pushSubscriptions ∧ ¬ object.Withdraws r.ticketId r.endpoint
      (.unregisterPushSubscription ticketId handle endpoint) := by
  unfold Shop.unregisterPushSubscription at mem
  split at mem
  · rename_i absent
    refine ⟨mem, ?_⟩
    rintro ⟨handle', row, same, found, _⟩
    cases same
    cases absent.symm.trans found
  · rename_i row found
    split at mem
    · rename_i wrong
      refine ⟨mem, ?_⟩
      rintro ⟨handle', row', same, found', answers⟩
      cases same
      cases found.symm.trans found'
      simp [answers] at wrong
    · obtain ⟨before, apart⟩ := List.mem_filter.mp mem
      refine ⟨before, ?_⟩
      rintro ⟨handle', row', same, _⟩
      cases same
      simp at apart

/-- All but a registration only takes rows away. -/
theorem serve_sublist {event : ObjectEvent}
    (other : ∀ ticketId handle subscription,
      event ≠ .registerPushSubscription ticketId handle subscription) :
    (object.serve u instants scan earlier config event).shop.pushSubscriptions.Sublist
      object.shop.pushSubscriptions := by
  have dispatched : ∀ (object : DurableObject) (turn : DispatchTurn) (action : QueueAction),
      (object.dispatch u instants scan turn action).2.shop.pushSubscriptions.Sublist
        object.shop.pushSubscriptions := by
    intro object turn action
    have ends := @DurableObject.dispatch_end u instants scan object turn action
    generalize object.dispatch u instants scan turn action = answer at ends ⊢
    cases ends with
    | failed | unseen => exact List.Sublist.refl _
    | done result sent succeeds broadcast =>
      have same : sent.shop.pushSubscriptions = object.shop.pushSubscriptions :=
        congrArg (fun object => object.shop.pushSubscriptions)
          (broadcastProjection_eq_some broadcast).1
      exact same ▸ reaped_sublist
  cases event with
  | registerPushSubscription ticketId handle subscription => exact absurd rfl (other _ _ _)
  | unregisterPushSubscription ticketId handle endpoint =>
    simp only [DurableObject.serve, Shop.unregisterPushSubscription]
    split
    · exact List.Sublist.refl _
    · split
      · exact List.Sublist.refl _
      · exact List.filter_sublist
  | fetch upgrade socket sent =>
    simp only [DurableObject.serve, DurableObject.fetch]
    split <;> exact List.Sublist.refl _
  | webSocketClose socket => exact List.Sublist.refl _
  | dispatch turn action => exact dispatched object turn action
  | alarm nowMs =>
    simp only [DurableObject.serve]
    split
    · split <;> exact List.Sublist.refl _
    · exact List.Sublist.refl _
  | proceed turn pushEnabled sent =>
    simp only [DurableObject.serve]
    cases running : object.sweep with
    | none => exact List.Sublist.refl _
    | some run =>
      have proceeds := @DurableObject.proceeds u instants scan object turn pushEnabled sent run
      simp only
      generalize object.proceed u instants scan turn pushEnabled sent run = next at proceeds ⊢
      cases proceeds with
      | ended | selects | announces => exact List.Sublist.refl _
      | sends p pending head subscription left delivered fanOut sofar sending =>
        subst sending
        unfold Shop.sendPush
        split
        · exact List.filter_sublist
        all_goals exact List.Sublist.refl _
      | acts p pending head channel ready => exact dispatched _ turn _
  | reArm nowMs =>
    simp only [DurableObject.serve]
    split <;> exact List.Sublist.refl _

/-- A row comes with a registration by the holder, and stays only where it is not withdrawn. -/
theorem serve_rows {r : PushRow}
    (mem : r ∈ (object.serve u instants scan earlier config event).shop.pushSubscriptions) :
    object.Registers r.ticketId r.toPushSubscription event ∨
      r ∈ object.shop.pushSubscriptions ∧ ¬ object.Withdraws r.ticketId r.endpoint event := by
  by_cases withdraws : ∃ ticketId handle endpoint,
      event = .unregisterPushSubscription ticketId handle endpoint
  · obtain ⟨ticketId, handle, endpoint, rfl⟩ := withdraws
    exact .inr (mem_unregistered mem)
  · have other : ¬ object.Withdraws r.ticketId r.endpoint event := by
      rintro ⟨handle, row, same, _⟩
      exact withdraws ⟨_, _, _, same⟩
    by_cases registers : ∃ ticketId handle subscription,
        event = .registerPushSubscription ticketId handle subscription
    · obtain ⟨ticketId, handle, subscription, rfl⟩ := registers
      rcases mem_registered mem with before | ⟨rfl, new⟩
      · exact .inr ⟨before, other⟩
      · exact .inl new
    · have silent : ∀ ticketId handle subscription,
          event ≠ .registerPushSubscription ticketId handle subscription :=
        fun _ _ _ same => registers ⟨_, _, _, same⟩
      exact .inr ⟨(serve_sublist silent).subset mem, other⟩

/-- A fan-out under way has been so, perhaps with one push more to come, or has just begun for the
subscriptions of its ticket. -/
theorem serve_fanOut {run : SweepRun} {fanOut : FanOut} (nudging : object.Nudging)
    (sweep : (object.serve u instants scan earlier config event).sweep = some run)
    (busy : run.fanOut = some fanOut) :
    (∃ before fanOut', object.sweep = some before ∧ before.fanOut = some fanOut' ∧
      before.pending = run.pending ∧ ∀ subscription ∈ fanOut.left, subscription ∈ fanOut'.left) ∨
    ∃ ticketId pending, object.NudgesNext ticketId ∧ run.pending = (.nudge, ticketId) :: pending ∧
      fanOut.left = PushStore.list ticketId object.shop.pushSubscriptions := by
  rcases serve_sweep sweep with
    same | ⟨before, turn, _, sent, _, running, goes⟩ | ⟨_, _, _, _, _, _, _, rfl⟩
  · exact .inl ⟨run, fanOut, same, busy, rfl, fun _ mem => mem⟩
  · cases goes with
    | ended => exact .inl ⟨run, fanOut, running, busy, rfl, fun _ mem => mem⟩
    | selects tick ticks head pending =>
      obtain ⟨ticketId, rest, first⟩ := nudging before fanOut running busy
      cases pending.symm.trans first
    | announces ticketId pending head idle =>
      cases busy
      exact .inr ⟨ticketId, pending, ⟨before, pending, running, head, idle⟩, head, rfl⟩
    | sends p pending head subscription left delivered fanOut' =>
      cases busy
      exact .inl ⟨before, _, running, fanOut', rfl, fun _ mem => List.mem_cons_of_mem _ mem⟩
    | acts => cases busy
  · cases busy

theorem DurableObject.Nudging.serve (nudging : object.Nudging) :
    (object.serve u instants scan earlier config event).Nudging := by
  intro run fanOut sweep busy
  rcases serve_fanOut nudging sweep busy with
    ⟨before, fanOut', running, busy', same, _⟩ | ⟨ticketId, pending, _, head, _⟩
  · obtain ⟨ticketId, pending, head⟩ := nudging before fanOut' running busy'
    exact ⟨ticketId, pending, same ▸ head⟩
  · exact ⟨ticketId, pending, head⟩

theorem DurableObject.Attested.serve
    (attested : (events.foldl (DurableObject.serve u instants scan earlier config) .empty).Attested
      u instants scan earlier config events) :
    ((events.foldl (DurableObject.serve u instants scan earlier config) .empty).serve
      u instants scan earlier config event).Attested u instants scan earlier config
        (events ++ [event]) where
  rows := by
    intro r mem
    rcases serve_rows mem with new | ⟨before, kept⟩
    · exact Trace.since_now new
    · exact (attested.rows r before).snoc kept
  left := by
    intro run fanOut sweep busy
    have nudging : DurableObject.Nudging _ := fun run fanOut sweep busy =>
      let ⟨ticketId, pending, head, _⟩ := attested.left run fanOut sweep busy
      ⟨ticketId, pending, head⟩
    rcases serve_fanOut nudging sweep busy with
      ⟨before, fanOut', running, busy', same, fewer⟩ | ⟨ticketId, pending, next, head, listed⟩
    · obtain ⟨ticketId, pending, head, asked⟩ := attested.left before fanOut' running busy'
      exact ⟨ticketId, pending, same ▸ head, fun subscription mem =>
        (asked subscription (fewer subscription mem)).more⟩
    · refine ⟨ticketId, pending, head, fun subscription mem => ?_⟩
      rw [listed, PushStore.list] at mem
      obtain ⟨r, inTable, rfl⟩ := List.mem_map.mp mem
      obtain ⟨inRows, own⟩ := List.mem_filter.mp inTable
      have since := attested.rows r inRows
      rw [of_decide_eq_true own] at since
      exact ⟨events, [event], rfl, since, next⟩

end

def TicketEvent.isPushNudge (e : TicketEvent) : Bool :=
  match e.body with
  | .nudged _ _ channel => channel = .push
  | _ => false

def pushNudgesIn (s : DurableStore) (id : TicketId) : Nat :=
  (s.aggregate id).log.countP TicketEvent.isPushNudge

/-- The nudge of the ticket is under way, and a push has reached somebody. -/
def DurableObject.reached (id : TicketId) (object : DurableObject) : Bool :=
  object.sweep.any (fun run => run.pending.head?.any (fun p => p.2 = id) &&
    run.fanOut.any (fun fanOut => 1 ≤ fanOut.delivered))

section
variable {u : Unicode} {instants : InstantText} {scan : List TicketRow → List TicketRow}
  {earlier : Instant → Int → Bool} {config : AlarmConfig} {object : DurableObject}
  {event : ObjectEvent} {s : DurableStore} {ports : Ports}

theorem isPushNudge_ofAlarm {e : TicketEvent} (other : e.body.ofAlarm = false) :
    e.isPushNudge = false := by
  unfold TicketEvent.isPushNudge
  split
  · rename_i nudged
    rw [nudged] at other
    cases other
  · rfl

/-- What the routes write is none of the events of the alarm. -/
theorem routed_log (kept : s.Kept) {action : QueueAction} (routed : action.Routed) (id : TicketId) :
    ∃ more, ((dispatched u instants s (ports, action)).aggregate id).log =
      (s.aggregate id).log ++ more ∧ ∀ e ∈ more, e.body.ofAlarm = false := by
  cases read : action.useCase instants with
  | none =>
    rw [dispatched, dispatch_thrown read]
    exact ⟨[], (List.append_nil _).symm, by simp⟩
  | some c =>
    cases present : (s.aggregate id).latest with
    | none =>
      have store : dispatched u instants s (ports, action) =
          (c.run (Durable.repository u Durable.snapshotInterval) ports s).2 := dispatch_store read
      rw [store]
      rcases @call_absent u Durable.snapshotInterval s id kept ports c present with
        same | ⟨input, all, empty, issued⟩
      · exact ⟨[], by rw [same, List.append_nil], by simp⟩
      · rw [issued, empty]
        refine ⟨[(issueResult ports input s all).event], rfl, fun e mem => ?_⟩
        obtain rfl := List.mem_singleton.mp mem
        rfl
    | some latest =>
      obtain ⟨t, revision⟩ := latest
      obtain ⟨advance, advances, advanced⟩ :=
        @dispatched_advance _ _ _ u instants s kept (ports, action) read _ present
      refine ⟨_, advanced.log, fun e mem => ?_⟩
      cases advance with
      | none => cases mem
      | some result =>
        obtain rfl := List.mem_singleton.mp mem
        exact (advances.routedResult (routed_useCase routed read)).event

theorem routed_pushNudges (kept : s.Kept) {action : QueueAction} (routed : action.Routed)
    (id : TicketId) :
    pushNudgesIn (dispatched u instants s (ports, action)) id = pushNudgesIn s id := by
  obtain ⟨more, log, others⟩ := @routed_log u instants s ports kept action routed id
  have none_ : more.countP TicketEvent.isPushNudge = 0 := by
    refine List.countP_eq_zero.mpr (fun e mem nudge => ?_)
    cases (isPushNudge_ofAlarm (others e mem)).symm.trans nudge
  rw [pushNudgesIn, log, List.countP_append, none_]
  rfl

/-- The action of a tick logs one push nudge at most, if it is to. -/
theorem tick_pushNudges (kept : s.Kept) (channel : Channel) (tick : Tick) (other id : TicketId) :
    pushNudgesIn (dispatched u instants s (ports, tick.action other channel)) id ≤
      pushNudgesIn s id + if other = id ∧ channel = .push then 1 else 0 := by
  by_cases mine : id = other
  · subst mine
    rcases @tick_commit tick u instants s ports id channel kept with
      same | ⟨loaded, result, own, applies, moved⟩
    · rw [same]
      exact Nat.le_add_right _ _
    · have log := (@Moved.advanced _ _ _ _ _ result.ticket _ _ moved kept own).log
      have counted : pushNudgesIn (dispatched u instants s (ports, tick.action id channel)) id =
          pushNudgesIn s id + [result.event].countP TicketEvent.isPushNudge := by
        unfold pushNudgesIn
        rw [log]
        exact List.countP_append
      have byPush : result.event.isPushNudge = true → channel = .push := by
        intro nudge
        cases tick with
        | nudge =>
          cases applies
          exact of_decide_eq_true nudge
        | lapseAppointment =>
          cases applies with
          | lapseAppointment _ _ _ _ _ _ applied =>
            obtain ⟨_, _, rfl⟩ := applyLapseAppointment_eq_some applied
            cases nudge
        | _ =>
          cases applies
          cases nudge
      rw [counted, List.countP_singleton]
      by_cases nudge : result.event.isPushNudge = true
      · rw [if_pos nudge, if_pos ⟨rfl, byPush nudge⟩]
      · rw [if_neg nudge]
        exact Nat.le_add_right _ _
  · unfold pushNudgesIn
    rw [tick_untouched kept mine]
    exact Nat.le_add_right _ _

theorem reached_iff {id : TicketId} : object.reached id = true ↔ ∃ run p pending fanOut,
    object.sweep = some run ∧ run.pending = p :: pending ∧ p.2 = id ∧
      run.fanOut = some fanOut ∧ 1 ≤ fanOut.delivered := by
  unfold DurableObject.reached
  constructor
  · intro reached
    obtain ⟨run, running, both⟩ := (Option.any_eq_true _ _).mp reached
    obtain ⟨first, busy⟩ := Bool.and_eq_true_iff.mp both
    obtain ⟨p, head, own⟩ := (Option.any_eq_true _ _).mp first
    obtain ⟨fanOut, some_, one⟩ := (Option.any_eq_true _ _).mp busy
    obtain ⟨pending, head⟩ := List.head?_eq_some_iff.mp head
    exact ⟨run, p, pending, fanOut, running, head, of_decide_eq_true own, some_,
      of_decide_eq_true one⟩
  · rintro ⟨run, p, pending, fanOut, running, head, own, some_, one⟩
    simp [running, head, own, some_, one]

/-- A push has reached somebody before, or does so now. -/
theorem reached_of_serve {id : TicketId} (nudging : object.Nudging)
    (after : (object.serve u instants scan earlier config event).reached id = true) :
    object.reached id = true ∨ object.delivers id event = true := by
  obtain ⟨run, p, pending, fanOut, sweep, head, own, busy, one⟩ := reached_iff.mp after
  rcases serve_sweep sweep with
    same | ⟨before, turn, pushEnabled, sent, rfl, running, goes⟩ | ⟨_, _, _, _, _, _, _, rfl⟩
  · exact .inl (reached_iff.mpr ⟨run, p, pending, fanOut, same, head, own, busy, one⟩)
  · cases goes with
    | ended => exact .inl (reached_iff.mpr ⟨run, p, pending, fanOut, running, head, own, busy, one⟩)
    | selects tick ticks _ nobody =>
      obtain ⟨ticketId, rest, first⟩ := nudging before fanOut running busy
      cases nobody.symm.trans first
    | announces =>
      cases busy
      cases one
    | sends q rest head' subscription left delivered busy' =>
      cases busy
      cases head'.symm.trans head
      by_cases reaches : sent = some .delivered
      · right
        simp [DurableObject.delivers, DurableObject.pushes, running, head', busy', own, reaches]
      · left
        have still : 1 ≤ delivered := by
          unfold Shop.sendPush at one
          split at one
          · exact one
          · rename_i delivers
            exact absurd delivers reaches
          all_goals exact one
        exact reached_iff.mpr ⟨before, _, _, _, running, head', own, busy', still⟩
    | acts => cases busy
  · cases busy

/-- Where an action goes by push somebody has been reached, and after it the fan-out is over. -/
theorem acts_reached {turn : DispatchTurn} {pushEnabled : Bool} {sent : Option SendPushResult}
    {call : Ports × QueueAction}
    (dispatches : object.dispatches (.proceed turn pushEnabled sent) = some call) :
    ∃ (p : Tick × TicketId) (channel : Channel), call = (turn.ports, p.1.action p.2 channel) ∧
      (channel = .push → object.reached p.2 = true) ∧ ∀ id, (object.serve u instants scan earlier
        config (.proceed turn pushEnabled sent)).reached id = false := by
  obtain ⟨run, running, first⟩ := Option.bind_eq_some_iff.mp dispatches
  obtain ⟨p, head, rest⟩ := Option.bind_eq_some_iff.mp first
  obtain ⟨channel, ready, rfl⟩ := Option.map_eq_some_iff.mp rest
  obtain ⟨pending, head⟩ := List.head?_eq_some_iff.mp head
  refine ⟨p, channel, rfl, ?_, fun id => ?_⟩
  · rintro rfl
    unfold SweepRun.channel at ready
    split at ready
    · cases ready
    · rename_i delivered busy
      have one : 1 ≤ delivered := by
        by_contra none_
        rw [if_neg none_] at ready
        cases ready
      exact reached_iff.mpr ⟨run, p, pending, _, running, head, rfl, busy, one⟩
    · split at ready <;> cases ready
  · rw [Bool.eq_false_iff]
    intro after
    obtain ⟨run', p', pending', fanOut, sweep, _, _, busy, _⟩ := reached_iff.mp after
    have proceeds := @DurableObject.proceeds u instants scan object turn pushEnabled sent run
    simp only [DurableObject.serve, running] at sweep
    generalize object.proceed u instants scan turn pushEnabled sent run = next at proceeds sweep
    cases proceeds with
    | ended _ nobody | selects _ _ _ nobody => cases nobody.symm.trans head
    | announces ticketId rest same _ silent =>
      cases same.symm.trans head
      cases silent.symm.trans ready
    | sends q rest same subscription left delivered fanOut' =>
      rw [SweepRun.channel, fanOut'] at ready
      cases ready
    | acts =>
      cases dispatch_pending.1.symm.trans sweep
      cases busy

theorem serve_pushNudges (kept : object.store.Kept) (nudging : object.Nudging)
    (routed : ∀ turn action, event = .dispatch turn action → action.Routed) (id : TicketId) :
    pushNudgesIn (object.serve u instants scan earlier config event).store id +
        ((object.serve u instants scan earlier config event).reached id).toNat ≤
      pushNudgesIn object.store id + (object.reached id).toNat +
        if object.delivers id event then 1 else 0 := by
  have reached : ((object.serve u instants scan earlier config event).reached id).toNat ≤
      (object.reached id).toNat + if object.delivers id event then 1 else 0 := by
    cases after : (object.serve u instants scan earlier config event).reached id with
    | false => exact Nat.zero_le _
    | true =>
      rcases reached_of_serve nudging after with before | now
      · rw [before]
        exact Nat.le_add_right _ _
      · rw [if_pos now]
        exact Nat.le_add_left _ _
  rw [DurableObject.serve_store]
  cases dispatches : object.dispatches event with
  | none =>
    change pushNudgesIn object.store id + _ ≤ _
    omega
  | some call =>
    cases event with
    | dispatch turn action =>
      cases dispatches
      have same := @routed_pushNudges u instants object.store turn.ports kept action
        (routed turn action rfl) id
      change pushNudgesIn (dispatched u instants object.store (turn.ports, action)) id + _ ≤ _
      omega
    | proceed turn pushEnabled sent =>
      obtain ⟨p, channel, rfl, byPush, over_⟩ :=
        @acts_reached u instants scan earlier config object turn pushEnabled sent call dispatches
      have added := @tick_pushNudges u instants object.store turn.ports kept channel p.1 p.2 id
      change pushNudgesIn (dispatched u instants object.store (turn.ports, _)) id + _ ≤ _
      rw [over_ id]
      have paid : (if p.2 = id ∧ channel = .push then 1 else 0) ≤ (object.reached id).toNat := by
        split
        · rename_i both
          have before : object.reached id = true := both.1 ▸ byPush both.2
          rw [before]
          exact Nat.le_refl _
        · exact Nat.zero_le _
      exact Nat.le_add_right_of_le (added.trans (Nat.add_le_add_left paid _))
    | _ => cases dispatches

end

/-- In a run in which the routes dispatch what they can, the log never has more nudges by push of a
ticket than pushes for it have reached somebody. -/
theorem push_nudges_delivered (u : Unicode) (instants : InstantText)
    (scan : List TicketRow → List TicketRow) (earlier : Instant → Int → Bool)
    (config : AlarmConfig) (events : List ObjectEvent)
    (routed : ∀ turn action, .dispatch turn action ∈ events → action.Routed) (id : TicketId) :
    pushNudgesIn (events.foldl (DurableObject.serve u instants scan earlier config) .empty).store
        id ≤
      Trace.count (DurableObject.serve u instants scan earlier config) (DurableObject.delivers id)
        events .empty := by
  have start : DurableObject.empty.store.Kept ∧ DurableObject.empty.Nudging :=
    ⟨DurableStore.kept_empty, by simp [DurableObject.Nudging, DurableObject.empty]⟩
  have keeps : ∀ event ∈ events, ∀ object : DurableObject, object.store.Kept ∧ object.Nudging →
      (object.serve u instants scan earlier config event).store.Kept ∧
        (object.serve u instants scan earlier config event).Nudging :=
    fun event _ object both => ⟨object.serve_kept both.1 earlier config event, both.2.serve⟩
  have bound := Trace.growth_le_count
    (f := fun object => pushNudgesIn object.store id + (object.reached id).toNat) keeps
    (fun event mem object both => serve_pushNudges both.1 both.2
      (fun turn action same => routed turn action (same ▸ mem)) id) start
  have none_ : pushNudgesIn DurableObject.empty.store id +
      (DurableObject.empty.reached id).toNat = 0 := rfl
  omega

namespace Sample

def atTwo (k : Nat) : DispatchTurn := ⟨laterPorts k, 2, fun _ => true⟩

def step (k : Nat) (sent : Option SendPushResult) : ObjectEvent := .proceed (atTwo k) true sent

/-- A called customer who has registered becomes Overdue and is nudged by push. -/
def pushed : List ObjectEvent :=
  [.dispatch (atTwo 1) (.issueTicket handle none none none),
    .dispatch (atTwo 2) (.callSpecific ⟨1⟩ .staff),
    .registerPushSubscription ⟨1⟩ handle ⟨"https://push.example/1", "", ""⟩, .alarm 60002,
    step 3 none, step 3 none, step 4 none, step 4 none, step 4 (some .delivered), step 4 none]

def serveObject : DurableObject → ObjectEvent → DurableObject :=
  DurableObject.serve unicode noInstants id Instant.before config

end Sample

theorem push_nudges_delivered_sample :
    1 ≤ Trace.count Sample.serveObject (DurableObject.delivers ⟨1⟩) Sample.pushed .empty := by
  have routed : ∀ turn action, .dispatch turn action ∈ Sample.pushed → action.Routed := by
    intro turn action mem
    simp only [Sample.pushed, Sample.step, List.mem_cons, ObjectEvent.dispatch.injEq, reduceCtorEq,
      List.not_mem_nil, or_false] at mem
    rcases mem with ⟨_, rfl⟩ | ⟨_, rfl⟩ <;> trivial
  have logged : pushNudgesIn (Sample.pushed.foldl Sample.serveObject .empty).store ⟨1⟩ = 1 := by
    decide +kernel
  have bound := push_nudges_delivered Sample.unicode Sample.noInstants id Instant.before
    Sample.config Sample.pushed routed ⟨1⟩
  rw [← Sample.serveObject] at bound
  exact logged.ge.trans bound

end SlotBooking
