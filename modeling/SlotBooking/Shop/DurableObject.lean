import SlotBooking.Shop.AlarmSweep
import SlotBooking.Shop.QueueViews

/-! The Durable Object with all that it holds: the tables, the push subscriptions, the WebSockets
attached to the feed, the pending alarm, and the sweep under way. A dispatch which succeeds sends
the projection to every socket, reaps, and arms the alarm. Where the projection cannot be built it
throws before the reaping, although the tables have changed. -/
namespace SlotBooking

/-! ### The feed -/

/-- A WebSocket which the object has accepted, with the frames it took, the last one last. A send
which throws leaves the socket broken. -/
structure WebSocket where
  id : Nat
  frames : List QueueView
  broken : Bool
deriving DecidableEq

/-- `ws.send(payload)`, where a failure is caught. -/
def WebSocket.send (payload : QueueView) (sent : Bool) (socket : WebSocket) : WebSocket :=
  if sent then { socket with frames := socket.frames ++ [payload] }
  else { socket with broken := true }

/-! ### The object -/

/-- The pushes of one nudge: whom it has yet to be sent to, and how many have been reached. -/
structure FanOut where
  left : List PushSubscription
  delivered : Nat

/-- A sweep between two of its steps. A fan-out is for the first of the pending rows. -/
structure SweepRun where
  startedMs : Int
  rules : SweepRules
  ticks : List Tick
  pending : List (Tick × TicketId)
  fanOut : Option FanOut

structure DurableObject where
  shop : Shop
  webSockets : List WebSocket
  alarmAt : Option Int
  sweep : Option SweepRun

def DurableObject.empty : DurableObject := ⟨.empty, [], none, none⟩

/-- What one dispatch meets: the clock and the ids, `Date.now()` where it arms the alarm, and the
sockets which take a frame. -/
structure DispatchTurn where
  ports : Ports
  nowMs : Int
  sends : Nat → Bool

def alarmFallbackReArmMs : Int := 60 * 1000

/-- The pause before the next sweep. -/
def AlarmConfig.reArmMs (config : AlarmConfig) : Int :=
  min config.overdueAfterCalled (min config.nudgeInterval
    (min config.appointmentGrace alarmFallbackReArmMs))

inductive ObjectEvent where
  | fetch (upgrade : Option String) (socket : Nat) (sent : Bool)
  | webSocketClose (socket : Nat)
  | registerPushSubscription (ticketId : TicketId) (handle : CustomerHandle)
      (subscription : PushSubscription)
  | unregisterPushSubscription (ticketId : TicketId) (handle : CustomerHandle) (endpoint : String)
  | dispatch (turn : DispatchTurn) (action : QueueAction)
  /-- The platform calls `alarm`, which computes its cutoffs. -/
  | alarm (nowMs : Int)
  /-- One step of the sweep: a query, one push of a nudge, or an action for one of the rows. -/
  | proceed (turn : DispatchTurn) (pushEnabled : Bool) (sent : Option SendPushResult)
  /-- The end of the sweep. -/
  | reArm (nowMs : Int)

namespace DurableObject

abbrev store (object : DurableObject) : DurableStore := object.shop.store

section
variable (u : Unicode) (instants : InstantText) (scan : List TicketRow → List TicketRow)

/-- No value where the projection cannot be built. -/
def broadcastProjection (sends : Nat → Bool) (object : DurableObject) : Option DurableObject :=
  if object.webSockets.isEmpty then some object
  else (projectionPayload u scan object.store).map (fun payload => { object with
    webSockets := object.webSockets.map (fun socket => socket.send payload (sends socket.id)) })

/-- A pending alarm stays where it is. -/
def ensureAlarmArmed (nowMs : Int) (object : DurableObject) : DurableObject :=
  { object with alarmAt := some (object.alarmAt.getD (nowMs + alarmFallbackReArmMs)) }

def withStore (object : DurableObject) (store : DurableStore) : DurableObject :=
  { object with shop := { object.shop with store } }

def reap (object : DurableObject) (result : QueueResult) : DurableObject :=
  { object with shop := { object.shop with
      pushSubscriptions :=
        result.returned.foldl reapTerminalSubscriptions object.shop.pushSubscriptions } }

def dispatch (turn : DispatchTurn) (action : QueueAction) (object : DurableObject) :
    Except Rejection QueueResult × DurableObject :=
  match SlotBooking.dispatch u instants turn.ports action object.store with
  | (.error rejection, store) => (.error rejection, object.withStore store)
  | (.ok result, store) =>
    let object := object.withStore store
    if result.succeeded then
      match object.broadcastProjection u scan turn.sends with
      | none => (.error .thrown, object)
      | some object => (.ok result, (object.reap result).ensureAlarmArmed turn.nowMs)
    else (.ok result, object)

/-- The status of the answer. What fails in the sending of the first frame is caught. -/
def fetch (upgrade : Option String) (socket : Nat) (sent : Bool) (object : DurableObject) :
    Nat × DurableObject :=
  if upgrade ≠ some "websocket" then (426, object)
  else
    let server : WebSocket := ⟨socket, [], false⟩
    let server :=
      match projectionPayload u scan object.store with
      | none => server
      | some payload => server.send payload sent
    (101, { object with webSockets := object.webSockets ++ [server] })

/-- By the time this handler runs, the platform has dropped the socket. -/
def webSocketClose (socket : Nat) (object : DurableObject) : DurableObject :=
  { object with webSockets := object.webSockets.filter (fun server => server.id ≠ socket) }

/-- The action for a row; a rejected dispatch is caught. -/
def act (turn : DispatchTurn) (run : SweepRun) (tick : Tick) (ticketId : TicketId)
    (channel : Channel) (object : DurableObject) : DurableObject :=
  ({ object with sweep := some { run with pending := run.pending.tail, fanOut := none } }.dispatch
    u instants scan turn (tick.action ticketId channel)).2

/-- One step of a sweep. Each push waits for its answer, and so does the dispatch after the last. -/
def proceed (turn : DispatchTurn) (pushEnabled : Bool) (sent : Option SendPushResult)
    (run : SweepRun) (object : DurableObject) : DurableObject :=
  match run.pending with
  | (tick, ticketId) :: _ =>
    match run.fanOut with
    | some ⟨subscription :: left, delivered⟩ =>
      let sofar := Shop.sendPush ticketId (fun _ => sent) (object.shop, delivered) subscription
      { object with shop := sofar.1, sweep := some { run with fanOut := some ⟨left, sofar.2⟩ } }
    | some ⟨[], delivered⟩ =>
      object.act u instants scan turn run tick ticketId (if 1 ≤ delivered then .push else .ws)
    | none =>
      let subs := PushStore.list ticketId object.shop.pushSubscriptions
      if tick = .nudge && !subs.isEmpty && pushEnabled then
        { object with sweep := some { run with fanOut := some ⟨subs, 0⟩ } }
      else object.act u instants scan turn run tick ticketId .ws
  | [] =>
    match run.ticks with
    | tick :: ticks =>
      { object with sweep := some { run with
          ticks, pending := (tick.selected run.rules object.store).map (fun id => (tick, id)) } }
    | [] => object

/-- An alarm runs when it is due and no other runs; one which cannot compute its cutoffs throws,
and is not tried again here. What the platform cannot do leaves the object as it is. -/
def serve (earlier : Instant → Int → Bool) (config : AlarmConfig) (object : DurableObject) :
    ObjectEvent → DurableObject
  | .fetch upgrade socket sent => (object.fetch u scan upgrade socket sent).2
  | .webSocketClose socket => object.webSocketClose socket
  | .registerPushSubscription ticketId handle subscription => { object with
      shop := (object.shop.registerPushSubscription ticketId handle subscription).2 }
  | .unregisterPushSubscription ticketId handle endpoint => { object with
      shop := (object.shop.unregisterPushSubscription ticketId handle endpoint).2 }
  | .dispatch turn action => (object.dispatch u instants scan turn action).2
  | .alarm nowMs =>
    match object.sweep, object.alarmAt with
    | none, some due =>
      if due ≤ nowMs then { object with
        alarmAt := none
        sweep := (config.rules earlier nowMs).map (fun rules =>
          ⟨nowMs, rules, [.moveToOverdue, .nudge, .markNoShow, .lapseAppointment], [], none⟩) }
      else object
    | _, _ => object
  | .proceed turn pushEnabled sent =>
    match object.sweep with
    | some run => object.proceed u instants scan turn pushEnabled sent run
    | none => object
  | .reArm nowMs =>
    match object.sweep with
    | some ⟨_, _, [], [], _⟩ => { object with alarmAt := some (nowMs + config.reArmMs), sweep := none }
    | _ => object

end

end DurableObject

/-! ### What a dispatch leaves -/

section
variable {u : Unicode} {instants : InstantText} {scan : List TicketRow → List TicketRow}
  {object : DurableObject} {turn : DispatchTurn} {action : QueueAction}

variable (u scan) in
/-- The projection can be built, or nobody is there to see it. -/
def DurableObject.Shown (object : DurableObject) : Prop :=
  object.webSockets = [] ∨ ∃ payload, projectionPayload u scan object.store = some payload

theorem broadcastProjection_eq_none_iff {sends : Nat → Bool} :
    object.broadcastProjection u scan sends = none ↔ ¬ object.Shown u scan := by
  unfold DurableObject.broadcastProjection DurableObject.Shown
  cases object.webSockets with
  | nil => simp
  | cons socket rest => cases projectionPayload u scan object.store <;> simp

theorem broadcastProjection_eq_some {sends : Nat → Bool} {object' : DurableObject}
    (sent : object.broadcastProjection u scan sends = some object') :
    object' = { object with webSockets := object'.webSockets } ∧
      ∀ payload, projectionPayload u scan object.store = some payload →
        object'.webSockets =
          object.webSockets.map (fun socket => socket.send payload (sends socket.id)) := by
  unfold DurableObject.broadcastProjection at sent
  split at sent
  · rename_i nobody
    cases sent
    refine ⟨rfl, fun _ _ => ?_⟩
    rw [List.isEmpty_iff.mp nobody]
    rfl
  · obtain ⟨payload, built, rfl⟩ := Option.map_eq_some_iff.mp sent
    refine ⟨rfl, fun payload' built' => ?_⟩
    cases built.symm.trans built'
    rfl

/-- A broadcast reaches nobody, or sends the projection to everybody. -/
theorem broadcastProjection_sockets {sends : Nat → Bool} {object' : DurableObject}
    (sent : object.broadcastProjection u scan sends = some object') :
    (object.webSockets = [] ∧ object'.webSockets = []) ∨
      ∃ payload, projectionPayload u scan object.store = some payload ∧ object'.webSockets =
        object.webSockets.map (fun socket => socket.send payload (sends socket.id)) := by
  have shown : object.Shown u scan := by
    by_contra unshown
    cases sent.symm.trans (broadcastProjection_eq_none_iff.mpr unshown)
  rcases shown with nobody | ⟨payload, built⟩
  · rw [DurableObject.broadcastProjection, nobody] at sent
    cases sent
    exact .inl ⟨nobody, nobody⟩
  · exact .inr ⟨payload, built, (broadcastProjection_eq_some sent).2 payload built⟩

variable (u instants) in
/-- The action succeeds on the tables. -/
def DurableStore.Succeeds (s : DurableStore) (ports : Ports) (action : QueueAction) : Prop :=
  ∃ result, (dispatch u instants ports action s).1 = .ok result ∧ result.succeeded = true

variable (u instants scan object turn action) in
/-- A dispatch fails; or succeeds, and throws in the broadcast; or sends, reaps and arms. -/
inductive DispatchEnd : Except Rejection QueueResult × DurableObject → Prop where
  | failed (answer : Except Rejection QueueResult)
      (fails : ¬ object.store.Succeeds u instants turn.ports action) :
      DispatchEnd (answer,
        object.withStore (dispatched u instants object.store (turn.ports, action)))
  | unseen (succeeds : object.store.Succeeds u instants turn.ports action)
      (unshown : ¬ (object.withStore
        (dispatched u instants object.store (turn.ports, action))).Shown u scan) :
      DispatchEnd (.error .thrown,
        object.withStore (dispatched u instants object.store (turn.ports, action)))
  | done (result : QueueResult) (sent : DurableObject)
      (succeeds : object.store.Succeeds u instants turn.ports action)
      (broadcast : (object.withStore (dispatched u instants object.store
        (turn.ports, action))).broadcastProjection u scan turn.sends = some sent) :
      DispatchEnd (.ok result, (sent.reap result).ensureAlarmArmed turn.nowMs)

theorem DurableObject.dispatch_end :
    DispatchEnd u instants scan object turn action
      (object.dispatch u instants scan turn action) := by
  obtain ⟨answer, s', ran⟩ : ∃ answer s',
      SlotBooking.dispatch u instants turn.ports action object.store = (answer, s') := ⟨_, _, rfl⟩
  have left : s' = dispatched u instants object.store (turn.ports, action) := by
    rw [dispatched, ran]
  cases answer with
  | error rejection =>
    have fails : ¬ object.store.Succeeds u instants turn.ports action := by
      rintro ⟨result, same, _⟩
      rw [ran] at same
      cases same
    simp only [DurableObject.dispatch, ran]
    exact left ▸ .failed _ fails
  | ok result =>
    cases success : result.succeeded with
    | false =>
      have fails : ¬ object.store.Succeeds u instants turn.ports action := by
        rintro ⟨result', same, succeeded⟩
        rw [ran] at same
        cases same
        cases success.symm.trans succeeded
      simp only [DurableObject.dispatch, ran, success, Bool.false_eq_true, if_false]
      exact left ▸ .failed _ fails
    | true =>
      have succeeds : object.store.Succeeds u instants turn.ports action :=
        ⟨result, by rw [ran], success⟩
      simp only [DurableObject.dispatch, ran, success, if_true]
      cases broadcast : (object.withStore s').broadcastProjection u scan turn.sends with
      | none => exact left ▸ .unseen succeeds (left ▸ broadcastProjection_eq_none_iff.mp broadcast)
      | some sent => exact .done result sent succeeds (left ▸ broadcast)

theorem DurableObject.dispatch_store : (object.dispatch u instants scan turn action).2.store =
    dispatched u instants object.store (turn.ports, action) := by
  have ends := @DurableObject.dispatch_end u instants scan object turn action
  generalize object.dispatch u instants scan turn action = r at ends ⊢
  cases ends with
  | failed | unseen => rfl
  | done result sent _ broadcast =>
    have same := (broadcastProjection_eq_some broadcast).1
    exact congrArg DurableObject.store same

/-- The channel of the next action; none while its pushes are to come or under way. -/
def SweepRun.channel (rows : List PushRow) (pushEnabled : Bool) (tick : Tick) (ticketId : TicketId)
    (run : SweepRun) : Option Channel :=
  match run.fanOut with
  | some ⟨_ :: _, _⟩ => none
  | some ⟨[], delivered⟩ => some (if 1 ≤ delivered then .push else .ws)
  | none =>
    if tick = .nudge && !(PushStore.list ticketId rows).isEmpty && pushEnabled then none
    else some .ws

/-- The action which an event dispatches, if any. -/
def DurableObject.dispatches (object : DurableObject) : ObjectEvent → Option (Ports × QueueAction)
  | .dispatch turn action => some (turn.ports, action)
  | .proceed turn pushEnabled _ => object.sweep.bind (fun run => run.pending.head?.bind (fun p =>
    (run.channel object.shop.pushSubscriptions pushEnabled p.1 p.2).map (fun channel =>
      (turn.ports, p.1.action p.2 channel))))
  | _ => none

theorem Shop.sendPush_store (ticketId : TicketId) (send : PushSubscription → Option SendPushResult)
    (sofar : Shop × Nat) (subscription : PushSubscription) :
    (Shop.sendPush ticketId send sofar subscription).1.store = sofar.1.store := by
  unfold Shop.sendPush
  split <;> rfl

variable (u instants scan object) in
/-- What a step does to a sweep and to the object: there is nothing left to do; a tick selects; the
pushes of a nudge begin, or one of them is sent; or the action for a row is dispatched. -/
inductive Proceeds (turn : DispatchTurn) (pushEnabled : Bool) (sent : Option SendPushResult)
    (run : SweepRun) : DurableObject → Prop where
  | ended (ticks : run.ticks = []) (pending : run.pending = []) :
      Proceeds turn pushEnabled sent run object
  | selects (tick : Tick) (ticks : List Tick) (head : run.ticks = tick :: ticks)
      (pending : run.pending = []) :
      Proceeds turn pushEnabled sent run { object with sweep := some { run with
        ticks, pending := (tick.selected run.rules object.store).map (fun id => (tick, id)) } }
  | announces (ticketId : TicketId) (pending : List (Tick × TicketId))
      (head : run.pending = (.nudge, ticketId) :: pending) (idle : run.fanOut = none)
      (busy : run.channel object.shop.pushSubscriptions pushEnabled .nudge ticketId = none) :
      Proceeds turn pushEnabled sent run { object with sweep := some { run with
        fanOut := some ⟨PushStore.list ticketId object.shop.pushSubscriptions, 0⟩ } }
  | sends (p : Tick × TicketId) (pending : List (Tick × TicketId))
      (head : run.pending = p :: pending) (subscription : PushSubscription)
      (left : List PushSubscription) (delivered : Nat)
      (fanOut : run.fanOut = some ⟨subscription :: left, delivered⟩) (sofar : Shop × Nat)
      (sending : sofar = Shop.sendPush p.2 (fun _ => sent) (object.shop, delivered) subscription) :
      Proceeds turn pushEnabled sent run
        { object with shop := sofar.1, sweep := some { run with fanOut := some ⟨left, sofar.2⟩ } }
  | acts (p : Tick × TicketId) (pending : List (Tick × TicketId))
      (head : run.pending = p :: pending) (channel : Channel)
      (ready : run.channel object.shop.pushSubscriptions pushEnabled p.1 p.2 = some channel) :
      Proceeds turn pushEnabled sent run
        ({ object with sweep := some { run with pending, fanOut := none } }.dispatch
          u instants scan turn (p.1.action p.2 channel)).2

theorem DurableObject.proceeds (turn : DispatchTurn) (pushEnabled : Bool)
    (sent : Option SendPushResult) (run : SweepRun) :
    Proceeds u instants scan object turn pushEnabled sent run
      (object.proceed u instants scan turn pushEnabled sent run) := by
  obtain ⟨startedMs, rules, ticks, pending, fanOut⟩ := run
  cases pending with
  | nil =>
    cases ticks with
    | nil => exact .ended rfl rfl
    | cons tick ticks => exact .selects tick ticks rfl rfl
  | cons p pending =>
    obtain ⟨tick, ticketId⟩ := p
    match fanOut with
    | some ⟨subscription :: left, delivered⟩ =>
      exact .sends (tick, ticketId) pending rfl subscription left delivered rfl _ rfl
    | some ⟨[], delivered⟩ => exact .acts (tick, ticketId) pending rfl _ rfl
    | none =>
      unfold DurableObject.proceed
      dsimp only
      split
      · rename_i announced
        obtain rfl : tick = .nudge := by
          simp only [Bool.and_eq_true, decide_eq_true_eq] at announced
          exact announced.1.1
        have busy : SweepRun.channel object.shop.pushSubscriptions pushEnabled .nudge ticketId
            ⟨startedMs, rules, ticks, (.nudge, ticketId) :: pending, none⟩ = none := if_pos announced
        exact .announces ticketId pending rfl rfl busy
      · rename_i silent
        have ready : SweepRun.channel object.shop.pushSubscriptions pushEnabled tick ticketId
            ⟨startedMs, rules, ticks, (tick, ticketId) :: pending, none⟩ = some .ws := if_neg silent
        exact .acts (tick, ticketId) pending rfl .ws ready

theorem Shop.registerPushSubscription_store (shop : Shop) (ticketId : TicketId)
    (handle : CustomerHandle) (subscription : PushSubscription) :
    (shop.registerPushSubscription ticketId handle subscription).2.store = shop.store := by
  unfold Shop.registerPushSubscription
  split
  · rfl
  · split
    · rfl
    · split <;> rfl

theorem Shop.unregisterPushSubscription_store (shop : Shop) (ticketId : TicketId)
    (handle : CustomerHandle) (endpoint : String) :
    (shop.unregisterPushSubscription ticketId handle endpoint).2.store = shop.store := by
  unfold Shop.unregisterPushSubscription
  split
  · rfl
  · split <;> rfl

/-- An event which dispatches is a dispatch, of an object with the same tables, sockets and
alarm, in which a sweep is under way or not as before. -/
theorem DurableObject.serve_dispatch (earlier : Instant → Int → Bool) (config : AlarmConfig)
    {event : ObjectEvent} {call : Ports × QueueAction}
    (dispatches : object.dispatches event = some call) :
    ∃ (prepared : DurableObject) (turn : DispatchTurn), prepared.store = object.store ∧
      prepared.webSockets = object.webSockets ∧ prepared.alarmAt = object.alarmAt ∧
      (prepared.sweep = none ↔ object.sweep = none) ∧ turn.ports = call.1 ∧
      object.serve u instants scan earlier config event =
        (prepared.dispatch u instants scan turn call.2).2 := by
  cases event with
  | dispatch turn action =>
    cases dispatches
    exact ⟨object, turn, rfl, rfl, rfl, .rfl, rfl, rfl⟩
  | proceed turn pushEnabled sent =>
    obtain ⟨run, running, first⟩ := Option.bind_eq_some_iff.mp dispatches
    obtain ⟨p, head, rest⟩ := Option.bind_eq_some_iff.mp first
    obtain ⟨channel, ready, rfl⟩ := Option.map_eq_some_iff.mp rest
    have proceeds := @DurableObject.proceeds u instants scan object turn pushEnabled sent run
    simp only [serve, running]
    generalize object.proceed u instants scan turn pushEnabled sent run = next at proceeds ⊢
    cases proceeds with
    | ended ticks pending | selects tick ticks next pending =>
      rw [pending] at head
      cases head
    | announces ticketId pending same idle busy =>
      rw [same] at head
      cases head
      cases busy.symm.trans ready
    | sends q pending same subscription left delivered fanOut =>
      rw [SweepRun.channel, fanOut] at ready
      cases ready
    | acts q pending same channel' ready' =>
      rw [same] at head
      cases head
      cases ready'.symm.trans ready
      exact ⟨{ object with sweep := some { run with pending, fanOut := none } }, turn, rfl, rfl,
        rfl, by simp, rfl, rfl⟩
  | _ => cases dispatches

theorem DurableObject.serve_store (earlier : Instant → Int → Bool) (config : AlarmConfig)
    (event : ObjectEvent) : (object.serve u instants scan earlier config event).store =
      (object.dispatches event).elim object.store (dispatched u instants object.store) := by
  cases dispatches : object.dispatches event with
  | some call =>
    obtain ⟨prepared, turn, store, _, _, _, ports, same⟩ :=
      @DurableObject.serve_dispatch u instants scan object earlier config event call dispatches
    rw [same, dispatch_store, store, ports]
    rfl
  | none =>
    cases event with
    | fetch upgrade socket sent =>
      simp only [serve, DurableObject.fetch]
      split <;> rfl
    | webSocketClose => rfl
    | registerPushSubscription => exact Shop.registerPushSubscription_store _ _ _ _
    | unregisterPushSubscription => exact Shop.unregisterPushSubscription_store _ _ _ _
    | dispatch => cases dispatches
    | alarm =>
      simp only [serve]
      split
      · split <;> rfl
      · rfl
    | proceed turn pushEnabled sent =>
      simp only [serve]
      cases running : object.sweep with
      | none => rfl
      | some run =>
        have proceeds := @DurableObject.proceeds u instants scan object turn pushEnabled sent run
        simp only
        generalize object.proceed u instants scan turn pushEnabled sent run = next at proceeds ⊢
        cases proceeds with
        | ended | selects | announces => rfl
        | sends p pending first subscription left delivered fanOut sofar sending =>
          rw [sending]
          exact Shop.sendPush_store p.2 (fun _ => sent) (object.shop, delivered) subscription
        | acts p pending first channel ready =>
          simp [DurableObject.dispatches, running, first, ready] at dispatches
    | reArm =>
      simp only [serve]
      split <;> rfl

theorem DurableObject.serve_kept (kept : object.store.Kept) (earlier : Instant → Int → Bool)
    (config : AlarmConfig) (event : ObjectEvent) :
    (object.serve u instants scan earlier config event).store.Kept := by
  rw [serve_store]
  cases object.dispatches event with
  | none => exact kept
  | some call => exact dispatched_kept kept call

/-! ### The sweep over one event -/

/-- A dispatch leaves the sweep alone, and a pending alarm as well. -/
theorem dispatch_pending : (object.dispatch u instants scan turn action).2.sweep = object.sweep ∧
    ∀ due, object.alarmAt = some due →
      (object.dispatch u instants scan turn action).2.alarmAt = some due := by
  have ends := @DurableObject.dispatch_end u instants scan object turn action
  generalize object.dispatch u instants scan turn action = r at ends ⊢
  cases ends with
  | failed | unseen => exact ⟨rfl, fun _ same => same⟩
  | done result sent succeeds broadcast =>
    have rest := (broadcastProjection_eq_some broadcast).1
    have alarm := congrArg DurableObject.alarmAt rest
    have sweep := congrArg DurableObject.sweep rest
    refine ⟨sweep, fun due same => ?_⟩
    change some (sent.alarmAt.getD _) = some due
    rw [alarm]
    change some (object.alarmAt.getD _) = some due
    rw [same]
    rfl

/-- One step of a sweep, by itself. -/
inductive SweepRun.Goes (object : DurableObject) (event : ObjectEvent) (turn : DispatchTurn)
    (sent : Option SendPushResult) (before : SweepRun) : SweepRun → Prop where
  | ended : Goes object event turn sent before before
  | selects (tick : Tick) (ticks : List Tick) (head : before.ticks = tick :: ticks)
      (pending : before.pending = []) :
      Goes object event turn sent before { before with
        ticks, pending := (tick.selected before.rules object.store).map (fun id => (tick, id)) }
  | announces (ticketId : TicketId) (pending : List (Tick × TicketId))
      (head : before.pending = (.nudge, ticketId) :: pending) (idle : before.fanOut = none) :
      Goes object event turn sent before { before with
        fanOut := some ⟨PushStore.list ticketId object.shop.pushSubscriptions, 0⟩ }
  | sends (p : Tick × TicketId) (pending : List (Tick × TicketId))
      (head : before.pending = p :: pending) (subscription : PushSubscription)
      (left : List PushSubscription) (delivered : Nat)
      (fanOut : before.fanOut = some ⟨subscription :: left, delivered⟩) :
      Goes object event turn sent before { before with fanOut := some ⟨left,
        (Shop.sendPush p.2 (fun _ => sent) (object.shop, delivered) subscription).2⟩ }
  | acts (p : Tick × TicketId) (pending : List (Tick × TicketId))
      (head : before.pending = p :: pending) (channel : Channel)
      (dispatches : object.dispatches event = some (turn.ports, p.1.action p.2 channel)) :
      Goes object event turn sent before { before with pending, fanOut := none }

theorem SweepRun.Goes.started {object : DurableObject} {event : ObjectEvent} {turn : DispatchTurn}
    {sent : Option SendPushResult} {before run : SweepRun}
    (goes : before.Goes object event turn sent run) :
    run.startedMs = before.startedMs ∧ run.rules = before.rules := by
  cases goes <;> exact ⟨rfl, rfl⟩

/-- A sweep under way goes on by one step at most; a new one begins with an alarm which is due. -/
theorem serve_sweep {earlier : Instant → Int → Bool} {config : AlarmConfig}
    {event : ObjectEvent} {run : SweepRun}
    (after : (object.serve u instants scan earlier config event).sweep = some run) :
    object.sweep = some run ∨
      (∃ before turn pushEnabled sent, event = .proceed turn pushEnabled sent ∧
        object.sweep = some before ∧ before.Goes object event turn sent run) ∨
      ∃ nowMs due rules, event = .alarm nowMs ∧ object.sweep = none ∧ object.alarmAt = some due ∧
        config.rules earlier nowMs = some rules ∧
        run = ⟨nowMs, rules, [.moveToOverdue, .nudge, .markNoShow, .lapseAppointment], [],
          none⟩ := by
  cases event with
  | fetch upgrade socket sent =>
    simp only [DurableObject.serve, DurableObject.fetch] at after
    split at after <;> exact .inl after
  | webSocketClose | registerPushSubscription | unregisterPushSubscription => exact .inl after
  | dispatch turn action => exact .inl (dispatch_pending.1.symm.trans after)
  | alarm nowMs =>
    simp only [DurableObject.serve] at after
    split at after
    · rename_i due idle set
      split at after
      · obtain ⟨rules, read, rfl⟩ := Option.map_eq_some_iff.mp after
        exact .inr (.inr ⟨nowMs, due, rules, rfl, idle, set, read, rfl⟩)
      · exact .inl after
    · exact .inl after
  | proceed turn pushEnabled sent =>
    simp only [DurableObject.serve] at after
    cases running : object.sweep with
    | none =>
      simp only [running] at after
      cases after
    | some before =>
      refine .inr (.inl ⟨before, turn, pushEnabled, sent, rfl, rfl, ?_⟩)
      have proceeds := @DurableObject.proceeds u instants scan object turn pushEnabled sent before
      simp only [running] at after
      generalize object.proceed u instants scan turn pushEnabled sent before = next at proceeds after
      cases proceeds with
      | ended =>
        cases running.symm.trans after
        exact .ended
      | selects tick ticks head pending =>
        cases after
        exact .selects tick ticks head pending
      | announces ticketId pending head idle =>
        cases after
        exact .announces ticketId pending head idle
      | sends p pending head subscription left delivered fanOut sofar sending =>
        cases after
        rw [sending]
        exact .sends p pending head subscription left delivered fanOut
      | acts p pending head channel ready =>
        cases dispatch_pending.1.symm.trans after
        refine .acts p pending head channel ?_
        simp [DurableObject.dispatches, running, head, ready]
  | reArm nowMs =>
    simp only [DurableObject.serve] at after
    split at after
    · cases after
    · exact .inl after

end

end SlotBooking
