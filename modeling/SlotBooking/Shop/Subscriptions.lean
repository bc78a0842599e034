import SlotBooking.Shop.Sweep

/-! The push subscriptions of the shop, a table beside those of the queue. Rows come with a
registration, and go when a customer unregisters, when the push service has forgotten them, or
when their ticket is finished. Broadcasts are left out: here they do not throw. -/
namespace SlotBooking

structure PushSubscription where
  endpoint : String
  p256dh : String
  auth : String
deriving DecidableEq

structure PushRow extends PushSubscription where
  ticketId : TicketId
deriving DecidableEq

/-! ### The table -/

namespace PushStore

/-- `(ticket_id, endpoint)` is unique; a conflict overwrites the keys. -/
def register (ticketId : TicketId) (subscription : PushSubscription) (rows : List PushRow) :
    List PushRow :=
  Table.put (fun r => (r.ticketId, r.endpoint)) (fun _ excluded => excluded)
    ⟨subscription, ticketId⟩ rows

def unregister (ticketId : TicketId) (endpoint : String) (rows : List PushRow) : List PushRow :=
  rows.filter (fun r => !(r.ticketId = ticketId && r.endpoint = endpoint))

def list (ticketId : TicketId) (rows : List PushRow) : List PushSubscription :=
  (rows.filter (fun r => r.ticketId = ticketId)).map PushRow.toPushSubscription

def reapByTicket (ticketId : TicketId) (rows : List PushRow) : List PushRow :=
  rows.filter (fun r => r.ticketId ≠ ticketId)

def deleteByEndpoint (ticketId : TicketId) (endpoint : String) (rows : List PushRow) :
    List PushRow :=
  rows.filter (fun r => !(r.ticketId = ticketId && r.endpoint = endpoint))

end PushStore

/-! ### The actor -/

structure Shop where
  store : DurableStore
  pushSubscriptions : List PushRow

def Shop.empty : Shop := ⟨.empty, []⟩

inductive PushReply where
  | ok
  | refused (reason : String)
deriving DecidableEq

/-- The stored handle of a row; a NULL column counts as the empty text. -/
def TicketRow.answersTo (row : TicketRow) (handle : CustomerHandle) : Bool :=
  constantTimeStringEqual (row.nameKana.getD []) handle.nameKana &&
    constantTimeStringEqual (row.phoneLast4.getD []) handle.phoneLast4

namespace Shop

def registerPushSubscription (ticketId : TicketId) (handle : CustomerHandle)
    (subscription : PushSubscription) (shop : Shop) : PushReply × Shop :=
  match shop.store.row ticketId with
  | none => (.refused "TicketNotFound", shop)
  | some row =>
    if row.state.isTerminal then (.refused "TicketTerminal", shop)
    else if !row.answersTo handle then (.refused "PhoneMismatch", shop)
    else (.ok, { shop with
      pushSubscriptions := PushStore.register ticketId subscription shop.pushSubscriptions })

def unregisterPushSubscription (ticketId : TicketId) (handle : CustomerHandle)
    (endpoint : String) (shop : Shop) : PushReply × Shop :=
  match shop.store.row ticketId with
  | none => (.ok, shop)
  | some row =>
    if !row.answersTo handle then (.refused "PhoneMismatch", shop)
    else (.ok, { shop with
      pushSubscriptions := PushStore.unregister ticketId endpoint shop.pushSubscriptions })

end Shop

/-- The tickets which a result carries. -/
def QueueResult.returned : QueueResult → List (Encoded Ticket)
  | .ticket encoded _ => [encoded]
  | .tickets encoded => encoded
  | .done | .error _ _ => []

def reapTerminalSubscriptions (rows : List PushRow) (ticket : Encoded Ticket) : List PushRow :=
  if ticket.json.state.isTerminal then PushStore.reapByTicket ticket.json.id rows else rows

inductive SendPushResult where
  | delivered
  | subscriptionGone
  | rejected
  | transportError
deriving DecidableEq

/-- What one turn of an alarm meets: the clock and the ids of its dispatch, and the answers of
the push services. Where sending throws there is no answer. -/
structure AlarmTurn where
  ports : Ports
  pushEnabled : Bool
  send : PushSubscription → Option SendPushResult

section
variable (u : Unicode) (instants : InstantText)

/-- The dispatch, and after a success the reaping. -/
def Shop.dispatch (ports : Ports) (action : QueueAction) (shop : Shop) :
    Except Rejection QueueResult × Shop :=
  match SlotBooking.dispatch u instants ports action shop.store with
  | (.error rejection, store) => (.error rejection, { shop with store })
  | (.ok result, store) =>
    (.ok result,
      { store,
        pushSubscriptions :=
          result.returned.foldl reapTerminalSubscriptions shop.pushSubscriptions })

/-- One subscription is sent to: a forgotten one is deleted, a delivery is counted. -/
def Shop.sendPush (ticketId : TicketId) (send : PushSubscription → Option SendPushResult)
    (sofar : Shop × Nat) (subscription : PushSubscription) : Shop × Nat :=
  match send subscription with
  | some .subscriptionGone =>
    ({ sofar.1 with
        pushSubscriptions := PushStore.deleteByEndpoint ticketId subscription.endpoint
          sofar.1.pushSubscriptions }, sofar.2)
  | some .delivered => (sofar.1, sofar.2 + 1)
  | some .rejected | some .transportError | none => sofar

/-- The shop afterwards, and how many subscriptions have been reached. -/
def Shop.fanOutPush (ticketId : TicketId) (send : PushSubscription → Option SendPushResult)
    (shop : Shop) : Shop × Nat :=
  (PushStore.list ticketId shop.pushSubscriptions).foldl (Shop.sendPush ticketId send) (shop, 0)

/-- Before a nudge the subscriptions of its ticket are served. -/
def Shop.announce (turn : AlarmTurn) (tick : Tick) (ticketId : TicketId) (shop : Shop) :
    Shop × Channel :=
  if tick = .nudge && !(PushStore.list ticketId shop.pushSubscriptions).isEmpty && turn.pushEnabled
  then
    let (shop, delivered) := shop.fanOutPush ticketId turn.send
    (shop, if 1 ≤ delivered then .push else .ws)
  else (shop, .ws)

/-- A rejection is caught, so that the sweep goes on. -/
def Shop.runSweepStep (turn : AlarmTurn) (tick : Tick) (ticketId : TicketId) (shop : Shop) : Shop :=
  let (shop, channel) := shop.announce turn tick ticketId
  (shop.dispatch u instants turn.ports (tick.action ticketId channel)).2

/-- Where an alarm stands, as `Sweep`, with the subscriptions. -/
structure ShopSweep where
  shop : Shop
  ticks : List Tick
  pending : List (Tick × TicketId)

def ShopSweep.proceed (rules : SweepRules) (sweep : ShopSweep) (turn : AlarmTurn) : ShopSweep :=
  match sweep.pending with
  | (tick, ticketId) :: pending =>
    { sweep with shop := sweep.shop.runSweepStep u instants turn tick ticketId, pending }
  | [] =>
    match sweep.ticks with
    | tick :: ticks =>
      { sweep with
        ticks, pending := (tick.selected rules sweep.shop.store).map (fun id => (tick, id)) }
    | [] => sweep

/-- An alarm as far as its turns last. -/
def Shop.alarm (earlier : Instant → Int → Bool) (config : AlarmConfig) (nowMs : Int)
    (turns : List AlarmTurn) (shop : Shop) : Shop :=
  match config.rules earlier nowMs with
  | none => shop
  | some rules =>
    (turns.foldl (ShopSweep.proceed u instants rules)
      ⟨shop, [.moveToOverdue, .nudge, .markNoShow, .lapseAppointment], []⟩).shop

inductive ShopRequest where
  | registerPushSubscription (ticketId : TicketId) (handle : CustomerHandle)
      (subscription : PushSubscription)
  | unregisterPushSubscription (ticketId : TicketId) (handle : CustomerHandle) (endpoint : String)
  | dispatch (ports : Ports) (action : QueueAction)
  | alarm (config : AlarmConfig) (nowMs : Int) (turns : List AlarmTurn)

def Shop.serve (earlier : Instant → Int → Bool) (shop : Shop) : ShopRequest → Shop
  | .registerPushSubscription ticketId handle subscription =>
    (shop.registerPushSubscription ticketId handle subscription).2
  | .unregisterPushSubscription ticketId handle endpoint =>
    (shop.unregisterPushSubscription ticketId handle endpoint).2
  | .dispatch ports action => (shop.dispatch u instants ports action).2
  | .alarm config nowMs turns => shop.alarm u instants earlier config nowMs turns

end

/-- No subscription belongs to a finished ticket, or to none. -/
def Shop.Reaped (shop : Shop) : Prop :=
  ∀ r ∈ shop.pushSubscriptions, ∃ row, shop.store.row r.ticketId = some row ∧
    row.state.isTerminal = false

/-! ### Rows of the table -/

theorem mem_register {ticketId : TicketId} {subscription : PushSubscription} {rows : List PushRow}
    {r : PushRow} (mem : r ∈ PushStore.register ticketId subscription rows) :
    r ∈ rows ∨ r.ticketId = ticketId := by
  rw [PushStore.register, Table.put] at mem
  split at mem
  · obtain ⟨old, inTable, same⟩ := List.mem_map.mp mem
    split at same
    · cases same
      exact .inr rfl
    · cases same
      exact .inl inTable
  · rcases List.mem_append.mp mem with before | new
    · exact .inl before
    · exact .inr (congrArg PushRow.ticketId (List.mem_singleton.mp new))

/-- What is left after reaping was there before, and belongs to no finished ticket. -/
theorem mem_reaped {tickets : List (Encoded Ticket)} {rows : List PushRow} {r : PushRow}
    (mem : r ∈ tickets.foldl reapTerminalSubscriptions rows) :
    r ∈ rows ∧ ∀ t ∈ tickets, t.json.state.isTerminal = true → r.ticketId ≠ t.json.id := by
  induction tickets generalizing rows with
  | nil => exact ⟨mem, by simp⟩
  | cons t tickets ih =>
    obtain ⟨left, apart⟩ := ih mem
    rw [reapTerminalSubscriptions] at left
    by_cases finished : t.json.state.isTerminal = true
    · rw [if_pos finished, PushStore.reapByTicket, List.mem_filter] at left
      refine ⟨left.1, List.forall_mem_cons.mpr ⟨fun _ => ?_, apart⟩⟩
      simpa using left.2
    · rw [if_neg finished] at left
      exact ⟨left, List.forall_mem_cons.mpr ⟨fun terminal => absurd terminal finished, apart⟩⟩

/-- Sending keeps the queue, and adds no subscription. -/
theorem mem_fanOutPush (ticketId : TicketId) (send : PushSubscription → Option SendPushResult)
    (shop : Shop) : (shop.fanOutPush ticketId send).1.store = shop.store ∧
      ∀ r ∈ (shop.fanOutPush ticketId send).1.pushSubscriptions, r ∈ shop.pushSubscriptions := by
  have general : ∀ (subscriptions : List PushSubscription) (sofar : Shop × Nat),
      (subscriptions.foldl (Shop.sendPush ticketId send) sofar).1.store = sofar.1.store ∧
        ∀ r ∈ (subscriptions.foldl (Shop.sendPush ticketId send) sofar).1.pushSubscriptions,
          r ∈ sofar.1.pushSubscriptions := by
    intro subscriptions
    induction subscriptions with
    | nil => exact fun _ => ⟨rfl, fun _ mem => mem⟩
    | cons subscription subscriptions ih =>
      intro sofar
      have one : (Shop.sendPush ticketId send sofar subscription).1.store = sofar.1.store ∧
          ∀ r ∈ (Shop.sendPush ticketId send sofar subscription).1.pushSubscriptions,
            r ∈ sofar.1.pushSubscriptions := by
        rw [Shop.sendPush]
        split
        · exact ⟨rfl, fun r mem => (List.mem_filter.mp mem).1⟩
        all_goals exact ⟨rfl, fun _ mem => mem⟩
      obtain ⟨store, left⟩ := ih (Shop.sendPush ticketId send sofar subscription)
      exact ⟨store.trans one.1, fun r mem => one.2 r (left r mem)⟩
  exact general _ _

/-! ### Rows of the tickets -/

section
variable {u : Unicode} {interval : Nat} {s s' : DurableStore} {id : TicketId} {r : TicketRow}

theorem Moved.row {loaded : LoadedAggregate} {result : ApplyResult}
    (moved : Moved u interval s s' loaded result) (kept : s.Kept) :
    ∃ r, s'.row loaded.state.id = some r ∧ r.state = result.ticket.state := by
  have stored := @DurableStore.row_commit s interval loaded.state.id loaded.revision [result.event]
    result.ticket kept.tidy.ticketsKeyed moved.move.sameCore.id loaded.state.id
  rw [if_pos rfl, ← moved.store] at stored
  refine ⟨_, stored, ?_⟩
  rw [DurableStore.stored_state]
  rfl

/-- Calls finish no ticket. -/
theorem called_active (calls : Relation.ReflTransGen (Called u interval) s s') (kept : s.Kept)
    (found : s.row id = some r) (active : r.state.isTerminal = false) :
    ∃ r', s'.row id = some r' ∧ r'.state.isTerminal = false := by
  have both : s'.Kept ∧ ∃ r', s'.row id = some r' ∧ r'.state.isTerminal = false := by
    induction calls with
    | refl => exact ⟨kept, r, found, active⟩
    | tail _ call ih =>
      obtain ⟨keptBefore, before⟩ := ih
      obtain ⟨t, revision, args, moved⟩ := call
      refine ⟨moved.kept keptBefore, ?_⟩
      by_cases own : id = t.id
      · obtain ⟨r', found', state⟩ := moved.row keptBefore
        exact ⟨r', own ▸ found', by rw [state]; rfl⟩
      · rw [(moved.untouched keptBefore own).row]
        exact before
  exact both.2

end

section
variable {u : Unicode} {instants : InstantText} {s : DurableStore} {id : TicketId}
  {row : TicketRow} {ports : Ports} {action : QueueAction}

variable (u instants s ports action id) in
/-- After a dispatch an active ticket is active, or the result carries it as finished. -/
def ActiveOrReturned : Prop :=
  ∃ row', (dispatch u instants ports action s).2.row id = some row' ∧
    (row'.state.isTerminal = false ∨
      ∃ result t, (dispatch u instants ports action s).1 = .ok result ∧ t ∈ result.returned ∧
        t.json.id = id ∧ t.json.state.isTerminal = true)

/-- A single ticket of the reply is in the result. -/
theorem dispatch_ticket {c : UseCase} {t : Ticket} {s' : DurableStore}
    (read : action.useCase instants = some c)
    (ran : c.run (Durable.repository u Durable.snapshotInterval) ports s = (.ok (.ticket t), s'))
    (valid : t.toCustomerFields.Valid) : ∃ result,
      dispatch u instants ports action s = (.ok result, s') ∧ ⟨t⟩ ∈ result.returned := by
  have encoded : encodeReply (issueExistedId s action) (.ticket t) =
      some (.ticket ⟨t⟩ (issueExistedId s action = some t.id)) := by
    rw [encodeReply, encodeTicket, encodeTicketRowPayload_valid valid, Option.map_some]
  exact ⟨_, dispatch_ok read ran encoded, List.mem_singleton_self _⟩

theorem dispatch_active (kept : s.Kept) (found : s.row id = some row)
    (active : row.state.isTerminal = false) :
    ActiveOrReturned u instants s id ports action := by
  cases read : action.useCase instants with
  | none =>
    rw [ActiveOrReturned, dispatch_thrown read]
    exact ⟨row, found, .inl active⟩
  | some c =>
    have stays : ∀ row', (c.run (Durable.repository u Durable.snapshotInterval) ports s).2.row id =
        some row' → row'.state.isTerminal = false → ActiveOrReturned u instants s id ports action :=
      fun row' found' active' => ⟨row', (dispatch_store read).symm ▸ found', .inl active'⟩
    have outcome := @call_outcome u Durable.snapshotInterval s kept ports c
    generalize ran : c.run (Durable.repository u Durable.snapshotInterval) ports s = r
      at outcome stays
    cases outcome with
    | refused | answered => exact stays row found active
    | issued input all s' step =>
      have other : id ≠ ports.newTicketId := by
        rintro rfl
        cases found.symm.trans (step.absent kept).2
      exact stays row ((step.untouched kept other).row.trans found) active
    | called firstId restIds actor members s' built steps =>
      obtain ⟨row', found', active'⟩ := called_active steps kept found active
      exact stays row' found' active'
    | torn firstId restIds actor members e s' built steps =>
      obtain ⟨row', found', active'⟩ := called_active steps kept found active
      exact stays row' found' active'
    | moved c loaded result reply s' decides step =>
      by_cases own : id = loaded.state.id
      · subst own
        obtain ⟨row', found', state⟩ := step.row kept
        by_cases finished : result.ticket.state.isTerminal = true
        · have replies : reply = .ticket result.ticket := by
            cases decides with
            | save => rfl
            | checkIn => cases finished
          subst replies
          obtain ⟨answer, done, returned⟩ := dispatch_ticket read ran step.accepts.valid
          exact ⟨row', by rw [done]; exact found', .inr ⟨answer, ⟨result.ticket⟩, by rw [done],
            returned, step.move.sameCore.id, finished⟩⟩
        · refine stays row' found' ?_
          rw [state]
          simpa using finished
      · exact stays row ((step.untouched kept own).row.trans found) active

/-! ### Every request -/

theorem Shop.dispatch_eq (shop : Shop) : (shop.dispatch u instants ports action).2 =
    { store := (SlotBooking.dispatch u instants ports action shop.store).2,
      pushSubscriptions :=
        match (SlotBooking.dispatch u instants ports action shop.store).1 with
        | .ok result => result.returned.foldl reapTerminalSubscriptions shop.pushSubscriptions
        | .error _ => shop.pushSubscriptions } := by
  unfold Shop.dispatch
  split
  · rename_i done
    rw [done]
  · rename_i done
    rw [done]

/-- The queue keeps its invariant, and the subscriptions are reaped. -/
structure Shop.Kept (shop : Shop) : Prop where
  store : shop.store.Kept
  reaped : shop.Reaped

theorem Shop.kept_empty : Shop.empty.Kept where
  store := DurableStore.kept_empty
  reaped := by simp [Shop.Reaped, Shop.empty]

namespace Shop.Kept

variable {shop : Shop}

/-- Fewer subscriptions beside the same queue. -/
theorem fewer (kept : shop.Kept) {shop' : Shop} (store : shop'.store = shop.store)
    (left : ∀ r ∈ shop'.pushSubscriptions, r ∈ shop.pushSubscriptions) : shop'.Kept where
  store := store.symm ▸ kept.store
  reaped := by
    intro r mem
    rw [store]
    exact kept.reaped r (left r mem)

theorem registerPushSubscription (kept : shop.Kept) (ticketId : TicketId)
    (handle : CustomerHandle) (subscription : PushSubscription) :
    (shop.registerPushSubscription ticketId handle subscription).2.Kept := by
  unfold Shop.registerPushSubscription
  split
  · exact kept
  · rename_i row found
    split
    · exact kept
    · rename_i active
      split
      · exact kept
      · refine ⟨kept.store, fun r mem => ?_⟩
        rcases mem_register mem with before | own
        · exact kept.reaped r before
        · exact ⟨row, own ▸ found, by simpa using active⟩

theorem unregisterPushSubscription (kept : shop.Kept) (ticketId : TicketId)
    (handle : CustomerHandle) (endpoint : String) :
    (shop.unregisterPushSubscription ticketId handle endpoint).2.Kept := by
  unfold Shop.unregisterPushSubscription
  split
  · exact kept
  · split
    · exact kept
    · exact kept.fewer rfl (fun r mem => (List.mem_filter.mp mem).1)

theorem dispatch (kept : shop.Kept) (ports : Ports) (action : QueueAction) :
    (shop.dispatch u instants ports action).2.Kept := by
  rw [Shop.dispatch_eq]
  refine ⟨(dispatch_steps kept.store).kept kept.store, fun r mem => ?_⟩
  have before : r ∈ shop.pushSubscriptions ∧ ∀ result t,
      (SlotBooking.dispatch u instants ports action shop.store).1 = .ok result →
        t ∈ result.returned → t.json.state.isTerminal = true → r.ticketId ≠ t.json.id := by
    cases done : (SlotBooking.dispatch u instants ports action shop.store).1 with
    | error rejection =>
      rw [done] at mem
      exact ⟨mem, fun _ _ ok => nomatch ok⟩
    | ok result =>
      rw [done] at mem
      obtain ⟨old, apart⟩ := mem_reaped mem
      refine ⟨old, fun result' t same returned terminal => ?_⟩
      cases same
      exact apart t returned terminal
  obtain ⟨row, found, active⟩ := kept.reaped r before.1
  obtain ⟨row', found', active' | ⟨result, t, done, returned, own, terminal⟩⟩ :=
    @dispatch_active u instants shop.store r.ticketId row ports action kept.store found active
  · exact ⟨row', found', active'⟩
  · exact absurd own.symm (before.2 result t done returned terminal)

theorem runSweepStep (kept : shop.Kept) (turn : AlarmTurn) (tick : Tick) (ticketId : TicketId) :
    (shop.runSweepStep u instants turn tick ticketId).Kept := by
  have announced : (shop.announce turn tick ticketId).1.Kept := by
    unfold Shop.announce
    split
    · obtain ⟨store, left⟩ := mem_fanOutPush ticketId turn.send shop
      exact kept.fewer store left
    · exact kept
  exact announced.dispatch turn.ports _

theorem alarm (kept : shop.Kept) (earlier : Instant → Int → Bool) (config : AlarmConfig)
    (nowMs : Int) (turns : List AlarmTurn) :
    (shop.alarm u instants earlier config nowMs turns).Kept := by
  unfold Shop.alarm
  split
  · exact kept
  · rename_i rules _
    have general : ∀ (turns : List AlarmTurn) (sweep : ShopSweep), sweep.shop.Kept →
        (turns.foldl (ShopSweep.proceed u instants rules) sweep).shop.Kept := by
      intro turns
      induction turns with
      | nil => exact fun _ before => before
      | cons turn turns ih =>
        intro sweep before
        apply ih
        unfold ShopSweep.proceed
        split
        · rename_i tick ticketId pending _
          exact before.runSweepStep turn tick ticketId
        · split
          · exact before
          · exact before
    exact general turns _ kept

theorem serve (kept : shop.Kept) (earlier : Instant → Int → Bool) (request : ShopRequest) :
    (shop.serve u instants earlier request).Kept := by
  cases request with
  | registerPushSubscription ticketId handle subscription =>
    exact kept.registerPushSubscription ticketId handle subscription
  | unregisterPushSubscription ticketId handle endpoint =>
    exact kept.unregisterPushSubscription ticketId handle endpoint
  | dispatch ports action => exact kept.dispatch ports action
  | alarm config nowMs turns => exact kept.alarm earlier config nowMs turns

end Shop.Kept

/-! ### The queue beside the subscriptions -/

theorem Shop.announce_store (turn : AlarmTurn) (tick : Tick) (ticketId : TicketId) (shop : Shop) :
    (shop.announce turn tick ticketId).1.store = shop.store := by
  unfold Shop.announce
  split
  · exact (mem_fanOutPush ticketId turn.send shop).1
  · rfl

/-- The sweep of the queue, which knows of the subscriptions no more than the channel. -/
def ShopSweep.queue (sweep : ShopSweep) : Sweep := ⟨sweep.shop.store, sweep.ticks, sweep.pending⟩

theorem ShopSweep.queue_proceed (rules : SweepRules) (sweep : ShopSweep) (turn : AlarmTurn) :
    ∃ channel, (sweep.proceed u instants rules turn).queue =
      sweep.queue.proceed u instants rules turn.ports channel := by
  obtain ⟨shop, ticks, pending⟩ := sweep
  cases pending with
  | cons first pending =>
    obtain ⟨tick, ticketId⟩ := first
    refine ⟨(shop.announce turn tick ticketId).2, ?_⟩
    simp only [queue, proceed, Sweep.proceed, Shop.runSweepStep, Shop.dispatch_eq, dispatched,
      Shop.announce_store]
  | nil =>
    cases ticks with
    | nil => exact ⟨.ws, rfl⟩
    | cons tick ticks => exact ⟨.ws, rfl⟩

/-- An alarm of the shop does to the queue what an alarm of the queue does. -/
theorem Shop.alarm_store (config : AlarmConfig) (nowMs : Int) (turns : List AlarmTurn)
    (shop : Shop) : ∃ queueTurns, (shop.alarm u instants Instant.before config nowMs turns).store =
      SlotBooking.alarm u instants config nowMs queueTurns shop.store := by
  unfold Shop.alarm SlotBooking.alarm
  cases config.rules Instant.before nowMs with
  | none => exact ⟨[], rfl⟩
  | some rules =>
    have general : ∀ (turns : List AlarmTurn) (sweep : ShopSweep), ∃ queueTurns,
        (turns.foldl (ShopSweep.proceed u instants rules) sweep).queue =
          sweep.queue.run u instants rules queueTurns := by
      intro turns
      induction turns with
      | nil => exact fun _ => ⟨[], rfl⟩
      | cons turn turns ih =>
        intro sweep
        obtain ⟨channel, first⟩ := ShopSweep.queue_proceed rules sweep turn
        obtain ⟨queueTurns, rest⟩ := ih (sweep.proceed u instants rules turn)
        refine ⟨(turn.ports, channel) :: queueTurns, ?_⟩
        rw [List.foldl_cons, rest, first]
        rfl
    obtain ⟨queueTurns, same⟩ := general turns
      ⟨shop, [.moveToOverdue, .nudge, .markNoShow, .lapseAppointment], []⟩
    exact ⟨queueTurns, congrArg Sweep.store same⟩

theorem Shop.always_kept (earlier : Instant → Int → Bool) (requests : List ShopRequest) :
    Trace.Always (Shop.serve u instants earlier) Shop.Kept requests .empty :=
  Trace.always_of_invariant (fun request _ _ kept => kept.serve earlier request)
    (fun _ kept => kept) Shop.kept_empty

end

/-- Whatever the order of the requests, after each of them every subscription belongs to a
ticket which is not finished. -/
theorem subscriptions_reaped (u : Unicode) (instants : InstantText)
    (earlier : Instant → Int → Bool) (requests : List ShopRequest) :
    Trace.Always (Shop.serve u instants earlier) Shop.Reaped requests .empty :=
  fun n => (Shop.always_kept earlier requests n).reaped

end SlotBooking
